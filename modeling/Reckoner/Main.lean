/-
# The program

Runs the command line (`CommandLine.run`) on the arguments, the standard input and what the disk
holds at the paths that the arguments name. All that acts is here, and all that is decided is not.
-/

import Reckoner.CommandLine.Run

namespace Reckoner
namespace CommandLine

/-- All bytes of a stream, behind those that have been read of it. -/
partial def readAll (stream : IO.FS.Stream) (bytes : ByteArray) : IO ByteArray := do
  let more ← stream.read 65536
  if more.isEmpty then return bytes else readAll stream (bytes ++ more)

/-- What standard input holds. -/
def readInput : IO Input := do
  let bytes ← readAll (← IO.getStdin) .empty
  return ((String.fromUTF8? bytes).map .text).getD .undecodable

/-- Adds what the disk holds at a trail. -/
def look (folder : Folder) (trail : Trail) : IO Folder := do
  match ← (IO.FS.readFile trail.path).toBaseIO with
  | .ok text => return { folder with files := (trail, text) :: folder.files }
  | .error (.inappropriateType ..) => return { folder with folders := trail :: folder.folders }
  | .error _ => return folder

/-- What the disk holds for a run with the given arguments. -/
def survey (arguments : Arguments) : IO Folder :=
  (arguments.paths.flatMap Folder.passed).foldlM look ⟨[], []⟩

/-- Runs a command line. -/
def perform (argv : List String) : IO UInt32 := do
  let (input, folder) ← match Arguments.read argv with
    | .error _ => pure (.text "", ⟨[], []⟩)
    | .ok arguments => do
      let folder ← survey arguments
      let input ← if arguments.readsInput then readInput else pure (.text "")
      pure (input, folder)
  match run {} argv input folder with
  | .ok outcome => do
    IO.print outcome.stdout
    IO.eprint outcome.stderr
    return outcome.exit.toUInt32
  | .error escape => do
    IO.eprintln escape.message
    return 1

end CommandLine
end Reckoner

/-- The program. -/
def main (argv : List String) : IO UInt32 := Reckoner.CommandLine.perform argv
