/-
# Documents of a configuration

A document is a list of lines in the format TOML 1.0. A line gives a value to a key in the current
table, or opens a table (`[a.b]`) or a new element of an array of tables (`[[a.b]]`). Three kinds of
paths are remembered, because not every table may be written to again (`Reading`):

| path | may not |
| --- | --- |
| of an array or an inline table | be extended in any way |
| opened as a table | be opened again, nor be reached by a dotted key from outside |
| reached by a dotted key | be opened as a table later on |

Readers of what may be nested take a budget of steps. Every step takes a character from the text, so
the budget that `Toml.read` gives never runs out. The levels do: an array takes two of them and an
inline table three, as many as there are calls from a value to one inside it.
-/

import Reckoner.Toml.Scalar
import Reckoner.Toml.Value

namespace Reckoner
namespace Toml

/-- The keys from the top of a document down to a value. -/
abbrev Path := List String

/-! ### Layout -/

/-- What follows the comment that a line ends in, if it does. -/
def skipComment : List Char → Except Error (List Char)
  | '#' :: cs =>
    let (comment, rest) := cs.span (· != '\n')
    if comment.any (isIllegal false) then .error .malformed else .ok rest
  | cs => .ok cs

/-- What follows blanks, line feeds and comments; `inComment` says that one has begun. -/
def skipLayout (inComment : Bool) : List Char → Except Error (List Char)
  | [] => .ok []
  | c :: cs =>
    if inComment then
      if c = '\n' then skipLayout false cs
      else if isIllegal false c then .error .malformed
      else skipLayout true cs
    else if isSpaceOrFeed c then skipLayout false cs
    else if c = '#' then skipLayout true cs
    else .ok (c :: cs)

/-! ### Keys -/

/-- Whether a key needs no quotes around `c`. -/
def isBare (c : Char) : Bool := c.isAlphanum || c == '-' || c == '_'

/-- One part of a key. -/
def readKeyPart (cs : List Char) : Except Error (String × List Char) :=
  match readOneLine? cs with
  | some result => result.map fun (part, rest) => (String.ofList part, rest)
  | none =>
    match cs.span isBare with
    | ([], _) => .error .malformed
    | (part, rest) => .ok (String.ofList part, rest)

/-- A key of parts with points between them, and what follows it and its blanks. -/
def readKey : Nat → List Char → Except Error (Path × List Char)
  | 0, _ => .error .malformed
  | budget + 1, cs => do
    let (part, cs) ← readKeyPart cs
    match cs.dropWhile isSpace with
    | '.' :: rest => do
      let (parts, rest) ← readKey budget (rest.dropWhile isSpace)
      return (part :: parts, rest)
    | rest => return ([part], rest)

/-- A key with what introduces its value. -/
def readKeyOfPair (budget : Nat) (cs : List Char) : Except Error (Path × List Char) := do
  let (key, cs) ← readKey budget cs
  match cs with
  | '=' :: rest => return (key, rest.dropWhile isSpace)
  | _ => .error .malformed

/-! ### Tables -/

/-- Changes the table at a path below a table. Tables that are missing on the way are made, and an
array of tables stands for its last one, where `throughArrays` allows it. -/
def changeAt (throughArrays : Bool) (change : Table → Except Error Table) :
    Path → Table → Except Error Table
  | [], table => change table
  | key :: path, table =>
    match table.find? key with
    | none => do
      let entries ← changeAt throughArrays change path []
      return table.set key (.table entries)
    | some (.table entries) => do
      let entries ← changeAt throughArrays change path entries
      return table.set key (.table entries)
    | some (.array elements) =>
      match throughArrays, elements.getLast? with
      | true, some (.table entries) => do
        let entries ← changeAt throughArrays change path entries
        return table.set key (.array (elements.dropLast ++ [.table entries]))
      | _, _ => .error .malformed
    | some _ => .error .malformed

/-- Adds a key that is not there yet. -/
def addNew (key : String) (value : Value) (table : Table) : Except Error Table :=
  match table.find? key with
  | none => .ok (table.set key value)
  | some _ => .error .malformed

/-- Adds a value at a path, of which the last part must be new. -/
def addAt (throughArrays : Bool) (path : Path) (value : Value) (table : Table) :
    Except Error Table :=
  match path.getLast? with
  | none => .error .malformed
  | some key => changeAt throughArrays (addNew key value) path.dropLast table

/-- Adds an empty table to the array of a key. -/
def addElement (key : String) (table : Table) : Except Error Table :=
  match table.find? key with
  | none => .ok (table.set key (.array [.table []]))
  | some (.array elements) => .ok (table.set key (.array (elements ++ [.table []])))
  | some _ => .error .malformed

/-- Whether one of the paths leads to `path` or on the way to it. -/
def anyPrefixOf (paths : List Path) (path : Path) : Bool := paths.any (·.isPrefixOf path)

/-- Whether a value is an array or a table. -/
def Value.isContainer : Value → Bool
  | .array _ | .table _ => true
  | _ => false

/-! ### Values -/

/-- A value that is written without brackets and quotes. -/
def readPlain (cs : List Char) : Except Error (Value × List Char) :=
  match cs with
  | 't' :: 'r' :: 'u' :: 'e' :: rest => .ok (.truth true, rest)
  | 'f' :: 'a' :: 'l' :: 's' :: 'e' :: rest => .ok (.truth false, rest)
  | cs =>
    match readMoment? cs with
    | some result => result.map fun (m, rest) => (.moment m, rest)
    | none =>
      match readNumber? cs with
      | some (.integer n, rest) => .ok (.integer n, rest)
      | some (.real x, rest) => .ok (.real x, rest)
      | some (.tooLong digits, _) => .error (.integerTooLong digits)
      | none =>
        match readSpecial? cs with
        | some (x, rest) => .ok (.real x, rest)
        | none => .error .malformed

mutual

/-- A value, in which arrays and inline tables take at most `levels` levels. -/
def readValue (levels : Nat) : Nat → List Char → Except Error (Value × List Char)
  | 0, _ => .error .malformed
  | budget + 1, cs =>
    match readText? cs with
    | some result => result.map fun (text, rest) => (.text (String.ofList text), rest)
    | none =>
      match cs, levels with
      | '[' :: rest, levels + 2 => do readElements levels budget [] (← skipLayout false rest)
      | '\x7b' :: rest, levels + 3 =>
        match rest.dropWhile isSpace with
        | '\x7d' :: rest => .ok (.table [], rest)
        | rest => readPairs levels budget [] [] rest
      | '[' :: _, _ | '\x7b' :: _, _ => .error .tooDeep
      | cs, _ => readPlain cs

/-- The elements of an array up to its bracket; `done` are those before, last one first. -/
def readElements (levels : Nat) : Nat → List Value → List Char → Except Error (Value × List Char)
  | 0, _, _ => .error .malformed
  | _ + 1, done, ']' :: rest => .ok (.array done.reverse, rest)
  | budget + 1, done, cs => do
    let (value, cs) ← readValue levels budget cs
    match ← skipLayout false cs with
    | ']' :: rest => return (.array (value :: done).reverse, rest)
    | ',' :: rest => readElements levels budget (value :: done) (← skipLayout false rest)
    | _ => .error .malformed

/-- The pairs of an inline table up to its brace; `frozen` are the paths in it that may not be
extended. -/
def readPairs (levels : Nat) :
    Nat → List Path → Table → List Char → Except Error (Value × List Char)
  | 0, _, _, _ => .error .malformed
  | budget + 1, frozen, table, cs => do
    let (key, cs) ← readKeyOfPair budget cs
    let (value, cs) ← readValue levels budget cs
    if anyPrefixOf frozen key then .error .malformed
    else do
      let table ← addAt false key value table
      match cs.dropWhile isSpace with
      | '\x7d' :: rest => return (.table table, rest)
      | ',' :: rest =>
        let frozen := if value.isContainer then key :: frozen else frozen
        readPairs levels budget frozen table (rest.dropWhile isSpace)
      | _ => .error .malformed

end

/-! ### Lines -/

/-- A document under way. -/
structure Reading where
  /-- What has been read. -/
  root : Table
  /-- The path of the current table. -/
  header : Path
  /-- Paths that may not be extended. -/
  frozen : List Path
  /-- Paths that may not be opened as tables. -/
  opened : List Path
  /-- Paths that join `opened` where the current table ends. -/
  reached : List Path

namespace Reading

/-- Nothing read yet. -/
def start : Reading := ⟨[], [], [], [], []⟩

/-- Gives a value to a key in the current table. -/
def addPair (s : Reading) (key : Path) (value : Value) : Except Error Reading :=
  let path := s.header ++ key
  let between := (List.range (key.length - 1)).map fun i => s.header ++ key.take (i + 1)
  if between.any (s.opened.contains ·) || anyPrefixOf s.frozen path.dropLast then
    .error .malformed
  else do
    let root ← addAt true path value s.root
    let frozen := if value.isContainer then path :: s.frozen else s.frozen
    return { s with root := root, frozen := frozen, reached := between ++ s.reached }

/-- Ends the current table. -/
def close (s : Reading) : Reading := { s with opened := s.reached ++ s.opened, reached := [] }

/-- Opens a table. -/
def openTable (s : Reading) (path : Path) : Except Error Reading := do
  let s := s.close
  if s.opened.contains path || anyPrefixOf s.frozen path then .error .malformed
  else do
    let root ← changeAt true .ok path s.root
    return { s with root := root, header := path, opened := path :: s.opened }

/-- Opens a new element of an array of tables; what was remembered of its last element is
forgotten. -/
def openElement (s : Reading) (path : Path) : Except Error Reading := do
  let s := s.close
  match path.getLast? with
  | none => .error .malformed
  | some key =>
    if anyPrefixOf s.frozen path then .error .malformed
    else do
      let root ← changeAt true (addElement key) path.dropLast s.root
      let others (paths : List Path) : List Path := paths.filter (!path.isPrefixOf ·)
      return { s with
        root := root, header := path, frozen := others s.frozen,
        opened := path :: others s.opened }

/-- Reads what a line says, if it says anything. -/
def readStatement (levels budget : Nat) (s : Reading) (cs : List Char) :
    Except Error (Reading × List Char) :=
  match cs with
  | '#' :: _ => .ok (s, cs)
  | '[' :: '[' :: rest => do
    let (path, rest) ← readKey budget (rest.dropWhile isSpace)
    match rest with
    | ']' :: ']' :: rest => return (← s.openElement path, rest)
    | _ => .error .malformed
  | '[' :: rest => do
    let (path, rest) ← readKey budget (rest.dropWhile isSpace)
    match rest with
    | ']' :: rest => return (← s.openTable path, rest)
    | _ => .error .malformed
  | cs => do
    let (key, cs) ← readKeyOfPair budget cs
    let (value, rest) ← readValue levels budget cs
    return (← s.addPair key value, rest)

/-- Reads the lines of a text. -/
def readLines (levels valueBudget : Nat) : Nat → Reading → List Char → Except Error Table
  | 0, _, _ => .error .malformed
  | budget + 1, s, cs =>
    match cs.dropWhile isSpace with
    | [] => .ok s.root
    | '\n' :: rest => readLines levels valueBudget budget s rest
    | cs => do
      let (s, cs) ← readStatement levels valueBudget s cs
      match ← skipComment (cs.dropWhile isSpace) with
      | [] => return s.root
      | '\n' :: rest => readLines levels valueBudget budget s rest
      | _ => .error .malformed

end Reading

/-- A text in which a carriage return before a line feed is dropped. -/
def dropReturns : List Char → List Char
  | '\r' :: '\n' :: cs => '\n' :: dropReturns cs
  | c :: cs => c :: dropReturns cs
  | [] => []

/-- The configuration that a text writes, in which the values take at most `levels` levels. -/
def read (levels : Nat) (text : String) : Except Error Table :=
  let cs := dropReturns text.toList
  Reading.readLines levels (2 * cs.length + 2) (cs.length + 1) .start cs

end Toml
end Reckoner
