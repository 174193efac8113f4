/-
# Values of a configuration

A configuration is a table of values by keys, in the order in which the keys were written. A value
has two texts: `Value.toText`, as which it is handed on, and `Value.inner`, as which it stands
inside arrays and tables. They differ for texts, which are quoted inside others, and for dates and
times. Integers of too many digits have no text, nor have values that are nested too deeply.

| value | text |
| --- | --- |
| text `a` | `a`, inside others `'a'` |
| truth value | `True`, `False` |
| array | `[1, 'a']` |
| table | the entries `'key': value` with commas between them, in braces |
-/

import Reckoner.Text.Quoted
import Reckoner.Toml.Scalar

namespace Reckoner
namespace Toml

/-- A value. -/
inductive Value where
  | text (s : String)
  | integer (n : Int)
  | real (x : Binary64)
  | truth (b : Bool)
  | moment (m : Moment)
  | array (elements : List Value)
  | table (entries : List (String × Value))

/-- A table: keys with their values. -/
abbrev Table := List (String × Value)

namespace Value

/-- Why a value has no text. -/
inductive TextError where
  /-- An integer has too many digits. -/
  | tooLong
  /-- Arrays and tables are nested too deeply. -/
  | tooDeep
  deriving DecidableEq

/-- The wording of an error. -/
def TextError.message : TextError → String
  | tooLong => Digits.tooLong
  | tooDeep => nestedTooDeeply

mutual

/-- A value inside others, nested to at most `levels` levels. -/
def inner (levels : Nat) : Value → Except TextError String
  | text s => .ok (Text.quoted s)
  | integer n =>
    if Digits.maxText < Digits.count n.natAbs then .error .tooLong else .ok (Digits.signedText n)
  | real x => .ok x.text
  | truth b => .ok (if b then "True" else "False")
  | moment m => .ok m.value
  | array elements =>
    match levels with
    | 0 => .error .tooDeep
    | levels + 1 => do return "[" ++ ", ".intercalate (← innerAll levels elements) ++ "]"
  | table entries =>
    match levels with
    | 0 => .error .tooDeep
    | levels + 1 => do
      return "\x7b" ++ ", ".intercalate (← innerEntries levels entries) ++ "\x7d"

/-- The elements of an array. -/
def innerAll (levels : Nat) : List Value → Except TextError (List String)
  | [] => .ok []
  | v :: vs => do
    let text ← inner levels v
    let texts ← innerAll levels vs
    return text :: texts

/-- The entries of a table. -/
def innerEntries (levels : Nat) : List (String × Value) → Except TextError (List String)
  | [] => .ok []
  | (key, v) :: rest => do
    let text ← inner levels v
    let texts ← innerEntries levels rest
    return (Text.quoted key ++ ": " ++ text) :: texts

end

/-- The text of a value that is nested to at most `levels` levels. -/
def toText (levels : Nat) : Value → Except TextError String
  | text s => .ok s
  | moment m => .ok m.text
  | v => v.inner levels

end Value

namespace Table

/-- The value of a key. -/
def find? (table : Table) (key : String) : Option Value := table.lookup key

/-- The table of a key, if its value is one. -/
def table? (table : Table) (key : String) : Option Table :=
  match table.find? key with
  | some (.table entries) => some entries
  | _ => none

/-- The table with the value of a key replaced, or with the key at the end. -/
def set (key : String) (value : Value) : Table → Table
  | [] => [(key, value)]
  | (k, v) :: rest => if k = key then (k, value) :: rest else (k, v) :: set key value rest

end Table
end Toml
end Reckoner
