/-
# Lines

Texts are cut into lines in two ways. Positions and documents count line feeds only (`feedLines`);
definitions end at any line break (`breakLines`), where a carriage return and a line feed are one.

| text | `feedLines` | `breakLines` |
| --- | --- | --- |
| empty | one empty line | no line |
| `a`, line feed | `a` and an empty line | `a` |
| `a`, form feed, `b` | one line | `a` and `b` |
-/

namespace Reckoner
namespace Text

/-- The parts of a text between line feeds. `line` holds what has been read of the current one, last
character first. -/
def feedLinesFrom (line : List Char) : List Char → List (List Char)
  | [] => [line.reverse]
  | c :: cs =>
    if c = '\n' then line.reverse :: feedLinesFrom [] cs else feedLinesFrom (c :: line) cs

/-- The parts of a text between line feeds; there is always one. -/
def feedLines (cs : List Char) : List (List Char) := feedLinesFrom [] cs

/-- Whether a line ends at `c`. -/
def isBreak (c : Char) : Bool :=
  c ∈ ['\n', '\r', '\x0b', '\x0c', '\x1c', '\x1d', '\x1e', '\u0085', '\u2028', '\u2029']

/-- The lines of a text, each ended by a break or by the end of the text. `line` holds what has been
read of the current one, last character first. -/
def breakLinesFrom (line : List Char) : List Char → List (List Char)
  | [] => if line.isEmpty then [] else [line.reverse]
  | '\r' :: '\n' :: cs => line.reverse :: breakLinesFrom [] cs
  | c :: cs =>
    if isBreak c then line.reverse :: breakLinesFrom [] cs else breakLinesFrom (c :: line) cs

/-- The lines of a text, ended by any line break. -/
def breakLines (cs : List Char) : List (List Char) := breakLinesFrom [] cs

end Text
end Reckoner
