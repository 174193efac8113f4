/-
# Folders

A folder holds texts and folders under names. A path leads to what it names, one name at a time;
empty names and points are passed over, and two points lead back up. What lies above the folder, or
below the root, has its place in it as well (`Trail`):

| path | trail |
| --- | --- |
| `a//b/./c` | `a`, `b`, `c` |
| `a/../b` | `b` |
| `../../a` | `..`, `..`, `a` |
| `/a/../../b` | `/`, `b` |
-/

import Reckoner.Text.Quoted

namespace Reckoner

/-- Where something is: two points for each level above the folder, or `/` for the root, if it is
not in the folder; then the names downwards. -/
abbrev Trail := List String

namespace Trail

/-- The trail one name further. Two points lead back; from the folder they lead above it, and from
the root nowhere. -/
def step (trail : Trail) (name : String) : Trail :=
  if name != ".." then trail ++ [name]
  else match trail.getLast? with
    | none | some ".." => trail ++ [name]
    | some "/" => trail
    | some _ => trail.dropLast

/-- The trails that names lead through, the last one at the end. -/
def through (trail : Trail) : List String → List Trail
  | [] => []
  | name :: names => trail.step name :: through (trail.step name) names

/-- Whether a trail leads only upwards, to what is a folder for certain. -/
def isAbove (trail : Trail) : Bool := trail.all fun name => name == ".." || name == "/"

/-- The path of a trail. -/
def path : Trail → String
  | "/" :: names => "/" ++ "/".intercalate names
  | names => "/".intercalate names

end Trail

/-- What is known to exist: texts and folders by their trails. The folders on the way to either
exist as well. -/
structure Folder where
  files : List (Trail × String)
  folders : List Trail

/-- Why a path does not lead to a text. -/
inductive FileError where
  | missing (path : String)
  | notFolder (path : String)
  | isFolder (path : String)
  | nameTooLong (path : String)
  deriving DecidableEq

/-- The wording of an error. -/
def FileError.message : FileError → String
  | missing path => "[Errno 2] No such file or directory: " ++ Text.quoted path
  | notFolder path => "[Errno 20] Not a directory: " ++ Text.quoted path
  | isFolder path => "[Errno 21] Is a directory: " ++ Text.quoted path
  | nameTooLong path => "[Errno 36] File name too long: " ++ Text.quoted path

namespace Folder

/-- The names of a path. -/
def namesOf (path : String) : List String :=
  ((path.toList.splitOn '/').map String.ofList).filter fun n => n != "" && n != "."

/-- Where a path starts. -/
def startOf (path : String) : Trail := if path.startsWith "/" then ["/"] else []

/-- A path in its shortest spelling. -/
def spelled (path : String) : String :=
  let body := "/".intercalate (namesOf path)
  if path.startsWith "//" && !path.startsWith "///" then "//" ++ body
  else if path.startsWith "/" then "/" ++ body
  else if body.isEmpty then "."
  else body

/-- The most bytes of a name. -/
def maxNameBytes : Nat := 255

/-- The most bytes of a path. -/
def maxPathBytes : Nat := 4095

/-- What a trail leads to. -/
inductive Place where
  | text (content : String)
  | folder
  | nothing

/-- What stands at a trail. -/
def at? (folder : Folder) (trail : Trail) : Place :=
  match folder.files.lookup trail with
  | some content => .text content
  | none =>
    if trail.isAbove || (folder.files.map Prod.fst ++ folder.folders).any (trail.isPrefixOf ·) then
      .folder
    else .nothing

/-- Follows names from a trail that leads to a folder; `path` is named in errors. -/
def follow (folder : Folder) (path : String) (trail : Trail) :
    List String → Except FileError String
  | [] => .error (.isFolder path)
  | name :: names =>
    if maxNameBytes < name.utf8ByteSize then .error (.nameTooLong path)
    else match folder.at? (trail.step name), names with
      | .nothing, _ => .error (.missing path)
      | .text content, [] => .ok content
      | .text _, _ :: _ => .error (.notFolder path)
      | .folder, names => follow folder path (trail.step name) names

/-- The text that a path leads to. -/
def read (folder : Folder) (path : String) : Except FileError String :=
  let path := spelled path
  if maxPathBytes < path.utf8ByteSize then .error (.nameTooLong path)
  else follow folder path (startOf path) (namesOf path)

/-- The trails that a path passes. -/
def passed (path : String) : List Trail := (startOf path).through (namesOf path)

end Folder
end Reckoner
