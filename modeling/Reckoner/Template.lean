/-
# Templates

A template is a text in which `{{ name }}` stands for the value of a variable. Variables are defined
one in a line:

    rate = 0.19
    net = (1 + {{ rate }})

A name starts with a letter of ASCII or an underscore and goes on with word characters. Blanks may
stand around names and values, and lines of blanks count for nothing. A value is put in as it is: it
is not searched for further names (`Template.fill`).
-/

import Reckoner.Bindings
import Reckoner.Report
import Reckoner.Text.Word

namespace Reckoner

/-- What is wrong with a template or with definitions. -/
inductive TemplateError where
  /-- A line, counted from one, defines nothing. -/
  | badDefinition (line : Nat)
  /-- A name has no value. -/
  | undefined (name : String)
  deriving DecidableEq

/-- The wording of an error. -/
def TemplateError.message : TemplateError → String
  | badDefinition line =>
    "variable definition on line " ++ Digits.toText line ++ " must be of the form name = value"
  | undefined name => "undefined template variable '" ++ name ++ "'"

/-- The report of an error, which has no place in an expression. -/
def TemplateError.report (e : TemplateError) : Report := ⟨.template, e.message, Span.none, ""⟩

namespace Template

/-- The name that a text starts with, and the rest. -/
def readName? : List Char → Option (List Char × List Char)
  | [] => none
  | c :: cs =>
    if Text.isWordStart c then some (c :: cs.takeWhile Text.isWord, cs.dropWhile Text.isWord)
    else none

/-- A name uses a character. -/
theorem length_readName? {cs name rest : List Char} (h : readName? cs = some (name, rest)) :
    rest.length < cs.length := by
  cases cs with
  | nil => simp [readName?] at h
  | cons c cs =>
    simp only [readName?] at h
    split at h <;> simp at h
    rw [← h.2]
    exact Nat.lt_succ_of_le (List.dropWhile_sublist _).length_le

/-! ### Definitions -/

/-- The name and the value that a line without blanks at its ends defines. -/
def readDefinition? (line : List Char) : Option (String × String) := do
  let (name, rest) ← readName? line
  match rest.dropWhile Text.isBlank with
  | '=' :: value =>
    if value.isEmpty then none
    else some (String.ofList name, String.ofList (Text.trim value))
  | _ => none

/-- Adds the definitions of lines, of which the first has the given number. -/
def defineLines (bindings : Bindings) (number : Nat) :
    List (List Char) → Except TemplateError Bindings
  | [] => .ok bindings
  | line :: lines =>
    let line := Text.trim line
    if line.isEmpty then defineLines bindings (number + 1) lines
    else match readDefinition? line with
      | none => .error (.badDefinition number)
      | some (name, value) => defineLines (bindings.set name value) (number + 1) lines

/-- The variables that a text defines; the last definition of a name counts. -/
def definitions (text : String) : Except TemplateError Bindings :=
  defineLines [] 1 (Text.breakLines text.toList)

/-! ### Filling in -/

/-- The name in the braces that a text starts with, and the rest. -/
def readPlaceholder? : List Char → Option (List Char × List Char)
  | '\x7b' :: '\x7b' :: cs =>
    match readName? (cs.dropWhile Text.isBlank) with
    | some (name, rest) =>
      match rest.dropWhile Text.isBlank with
      | '\x7d' :: '\x7d' :: rest => some (name, rest)
      | _ => none
    | none => none
  | _ => none

/-- A placeholder uses a character. -/
theorem length_readPlaceholder? {cs name rest : List Char}
    (h : readPlaceholder? cs = some (name, rest)) : rest.length < cs.length := by
  unfold readPlaceholder? at h
  split at h <;> try contradiction
  rename_i cs
  split at h <;> try contradiction
  rename_i _ after hname
  split at h <;> try contradiction
  rename_i tail hclose
  have h₁ := length_readName? hname
  have h₂ := (List.dropWhile_sublist Text.isBlank (l := after)).length_le
  have h₃ := (List.dropWhile_sublist Text.isBlank (l := cs)).length_le
  simp only [Option.some.injEq, Prod.mk.injEq] at h
  rw [hclose, List.length_cons, List.length_cons] at h₂
  simp only [List.length_cons, ← h.2]
  omega

/-- Replaces what stands for variables in the rest of a text; `done` is the result so far, last
character first. -/
def fillFrom (bindings : Bindings) (done : List Char) (cs : List Char) :
    Except TemplateError (List Char) :=
  match _found : readPlaceholder? cs with
  | some (name, rest) =>
    match bindings.find? (String.ofList name) with
    | some value => fillFrom bindings (value.toList.reverse ++ done) rest
    | none => .error (.undefined (String.ofList name))
  | none =>
    match cs with
    | [] => .ok done.reverse
    | c :: cs => fillFrom bindings (c :: done) cs
termination_by cs.length
decreasing_by
  · exact length_readPlaceholder? _found
  · exact Nat.lt_succ_self _

/-- The text with every variable replaced by its value. -/
def fill (bindings : Bindings) (text : String) : Except TemplateError String :=
  (fillFrom bindings [] text.toList).map String.ofList

end Template
end Reckoner
