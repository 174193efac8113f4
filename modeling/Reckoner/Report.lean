/-
# Reports of errors

A report says what is wrong and where. `Report.render` shows the line that holds the start of the
span and underlines the span:

    error: division by zero
      --> <expr>:1:5
      |
    1 | 2 + 1 / 0
      |     ^^^^^

A span that ends on a later line is underlined to the end of the shown line, and an empty one by a
single caret. Lines and columns count from one, in characters, and only line feeds end a line.
-/

import Reckoner.Decimal.Basic
import Reckoner.Span
import Reckoner.Text.Blank
import Reckoner.Text.Line

namespace Reckoner

/-- A place in a text; both counts start at one. -/
structure Position where
  line : Nat
  column : Nat
  deriving DecidableEq

namespace Position

/-- An offset, moved into a text of `length` characters. -/
def clamp (length : Nat) (offset : Int) : Nat := min offset.toNat length

/-- The position of an offset. -/
def ofOffset (source : List Char) (offset : Int) : Position :=
  let before := source.take (clamp source.length offset)
  ⟨before.count '\n' + 1, (before.reverse.takeWhile (· != '\n')).length + 1⟩

end Position

/-- A line of a text, counted from one. -/
def lineAt (source : List Char) (line : Nat) : List Char :=
  ((Text.feedLines source)[line - 1]?).getD []

/-- The line that holds the start of a span, with a caret under it. -/
def caretLine (source : String) (span : Span) : String :=
  let cs := source.toList
  let position := Position.ofOffset cs span.start
  String.ofList
    (lineAt cs position.line ++ '\n' :: List.replicate (position.column - 1) ' ' ++ ['^'])

/-- The sorts of errors. -/
inductive Kind where
  | general
  | syntactic
  | evaluation
  | undefined (reason : Reason)
  | template
  deriving DecidableEq

namespace Kind

/-- The name under which a sort is reported. -/
def name : Kind → String
  | general => "error"
  | syntactic => "syntax_error"
  | evaluation => "eval_error"
  | undefined _ => "invalid_operation"
  | template => "template_error"

/-- Whether an error arose while a tree was evaluated. -/
def isEvaluation : Kind → Bool
  | evaluation | undefined _ => true
  | _ => false

end Kind

/-- What is wrong, and where in which text. -/
structure Report where
  kind : Kind
  message : String
  span : Span := Span.none
  source : String := ""
  deriving DecidableEq

namespace Report

/-- A report of an undefined operation; without a message of its own it takes that of the reason. -/
def ofReason (reason : Reason) (message : Option String) (span : Span) (source : String) : Report :=
  ⟨.undefined reason, (message.filter (· != "")).getD reason.message, span, source⟩

/-- The same report about another place. -/
def moveTo (report : Report) (span : Span) (source : String) : Report :=
  { report with span := span, source := source }

/-- How many carets underline a span that starts at `start` and ends at `stop`, on a line of the
given length. -/
def underline (start stop : Position) (length : Nat) : Nat :=
  if stop.line = start.line then max 1 (stop.column - start.column)
  else max 1 (length + 1 - start.column)

/-- A report as text; the name says which document the source comes from. -/
def render (report : Report) (name : String) : String :=
  let headline := "error: " ++ report.message
  if report.source.isEmpty then headline
  else
    let cs := report.source.toList
    let start := Position.ofOffset cs report.span.start
    let stop := Position.ofOffset cs report.span.stop
    let line := Text.dropEndWhile (· == '\r') (lineAt cs start.line)
    let number := Digits.toText start.line
    let gutter := String.ofList (List.replicate (number.length + 1) ' ')
    let pad := List.replicate (start.column - 1) ' '
    let carets := List.replicate (underline start stop line.length) '^'
    headline ++ "\n" ++
      gutter ++ "--> " ++ name ++ ":" ++ number ++ ":" ++ Digits.toText start.column ++ "\n" ++
      gutter ++ "|\n" ++
      number ++ " | " ++ String.ofList line ++ "\n" ++
      gutter ++ "| " ++ String.ofList (pad ++ carets)

/-- A report about a text that has no name. -/
def text (report : Report) : String := report.render "<expr>"

end Report
end Reckoner
