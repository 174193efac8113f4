/-
# Runs of the command line

A run ends in one of three ways. What it writes in each is fixed:

| exit | because of | standard output | standard error |
| ---: | --- | --- | --- |
| 0 | a value | the value, then the steps and the terms that are shown | the outline, if asked for |
| 1 | a text that cannot be read, a template, a file | nothing | the report |
| 2 | a value that cannot be found or shown, an argument | nothing | the report |

A malformed configuration ends it otherwise, and so do a value in it that has no text, a path that
no folder can hold, a standard input that is no text, and too high a tree for its outline
(`Escape`).
-/

import Reckoner.Calculation
import Reckoner.CommandLine.Options
import Reckoner.CommandLine.Usage
import Reckoner.Expr.Outline

namespace Reckoner
namespace CommandLine

/-- Why a run does not end with an exit status. -/
inductive Escape where
  | configuration (e : Toml.Error)
  | value (e : Toml.Value.TextError)
  | nullInPath
  | input
  | calculation (e : CalculationError)
  | outline
  deriving DecidableEq

/-- The wording of what ended a run without an exit status. -/
def Escape.message : Escape → String
  | configuration e => e.message
  | value e => e.message
  | nullInPath => "a path holds a character of code point zero"
  | input => "standard input holds no text"
  | calculation e => e.message
  | outline => Toml.nestedTooDeeply

/-- The line of a step with its number. -/
def stepLine (p : String × Nat) : String := "  " ++ Digits.toText (p.2 + 1) ++ ". " ++ p.1

/-- The line of a term. -/
def termLine (row : TermRow) : String :=
  "  " ++ Digits.toText row.index ++ ". " ++ row.text ++ " = " ++ row.value.display ++
    "  (running total " ++ row.total.display ++ ")"

/-- The lines that show a calculation. -/
def resultLines (c : Calculation) (options : Options) : List String :=
  ("= " ++ c.value.display) ::
    (if options.showSteps && !c.steps.isEmpty then "steps:" :: c.steps.zipIdx.map stepLine
      else []) ++
    (if options.showTerms then "terms:" :: c.rows.map termLine else [])

/-- What is written about a calculation. -/
def showResult (c : Calculation) (options : Options) : String :=
  String.join ((resultLines c options).map (· ++ "\n"))

/-- The outcome of an error that is reported. -/
def reported (exit : Nat) (text : String) : Outcome := ⟨exit, "", text ++ "\n"⟩

/-- What is written about a tree on standard error. -/
def outlineFor (limits : Limits) (options : Options) (tree : Expr) : Except Escape String :=
  if options.debug then
    match tree.outline? limits.outline with
    | some outline => .ok outline
    | none => .error .outline
  else .ok ""

/-- The outcome of a calculation with options. -/
def Options.run (limits : Limits) (options : Options) : Except Escape Outcome :=
  match Calculation.run limits options.settings options.bindings options.expression with
  | .ok c => do
    let outline ← outlineFor limits options c.tree
    return ⟨0, showResult c options, outline⟩
  | .error e =>
    match e.report? with
    | some report => .ok (reported (if report.kind.isEvaluation then 2 else 1) report.text)
    | none => .error (.calculation e)

/-- The outcome of options that could not be resolved. -/
def OptionsError.outcome : OptionsError → Except Escape Outcome
  | argument e => .ok (reported 2 ("error: " ++ e.message))
  | template e => .ok (reported 1 e.report.text)
  | file e => .ok (reported 1 ("error: " ++ e.message))
  | configuration e => .error (.configuration e)
  | value e => .error (.value e)
  | nullInPath => .error .nullInPath
  | input => .error .input

/-- The outcome of a command line with the given standard input, in a folder. -/
def run (limits : Limits) (argv : List String) (input : Input) (folder : Folder) :
    Except Escape Outcome :=
  match Arguments.read argv with
  | .error stop => .ok stop.outcome
  | .ok arguments =>
    match Options.resolve limits arguments input folder with
    | .error e => e.outcome
    | .ok options => options.run limits

end CommandLine
end Reckoner
