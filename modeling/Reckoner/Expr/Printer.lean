/-
# Printing expressions

The canonical text of a tree has single spaces around operators, numbers as they are displayed, and
only the parentheses that the tree holds or that the operator table asks for:

| operand | in parentheses if it is |
| --- | --- |
| of a sign | a sign or an operator |
| left of an operator | an operator of less strength |
| right of an operator | an operator of less strength, or of the same if they group to the left |

So `(1 - 2) - 3` without its parentheses is `1 - 2 - 3`, and `1 - (2 - 3)` keeps them. As in
evaluation, a chain is walked along its spine. A group and a sign take one level of printing, and a
spine takes two: one for its foot, and one more for the operands off it.
-/

import Reckoner.Decimal.Text
import Reckoner.Expr.Evaluation

namespace Reckoner

/-- Why a tree has no text. -/
inductive PrintError where
  /-- A node that is not there was reached. -/
  | missingNode
  /-- The table does not know an operator that stands beside another. -/
  | unknownOperator (symbol : String)
  /-- The tree has too many levels. -/
  | tooDeep (span : Span)
  deriving DecidableEq

/-- The report of an error; only too deep a tree has one. -/
def PrintError.report? : PrintError → Option Report
  | tooDeep span => some ⟨.evaluation, Expr.tooDeep, span, ""⟩
  | _ => none

/-- The wording of an error. -/
def PrintError.message : PrintError → String
  | missingNode => "cannot print " ++ Expr.missing.sort
  | unknownOperator symbol => Text.quoted symbol
  | tooDeep _ => Expr.tooDeep

namespace Expr

/-- A text in parentheses. -/
def inParentheses (text : String) : String := "(" ++ text ++ ")"

/-- A text, in parentheses if they are needed. -/
def wrap (needed : Bool) (text : String) : String := if needed then inParentheses text else text

/-- The operator of a symbol that stands beside another. -/
def operatorOf (symbol : String) : Except PrintError Operator :=
  match Operator.ofSymbol? symbol with
  | some operator => .ok operator
  | none => .error (.unknownOperator symbol)

/-- Whether the operand of a sign needs parentheses. -/
def needsParentheses : Expr → Bool
  | unary .. | binary .. => true
  | _ => false

/-- Whether the left operand of an operator needs parentheses. -/
def wrapsLeft (symbol : String) : Expr → Except PrintError Bool
  | binary child .. => do
    let inner ← operatorOf child
    let outer ← operatorOf symbol
    return inner.strength < outer.strength
  | _ => .ok false

/-- Whether the right operand of an operator needs parentheses. -/
def wrapsRight (symbol : String) : Expr → Except PrintError Bool
  | binary child .. => do
    let outer ← operatorOf symbol
    let inner ← operatorOf child
    return inner.strength < outer.rightStrength
  | _ => .ok false

/-- The text of an operator of a spine behind the text of what stands below it. -/
def printRung (inner : Expr → Except PrintError String) (below : String) (rung : Rung) :
    Except PrintError String := do
  let wrapLeft ← wrapsLeft rung.symbol rung.left
  let right ← inner rung.right
  let wrapRight ← wrapsRight rung.symbol rung.right
  return wrap wrapLeft below ++ " " ++ rung.symbol ++ " " ++ wrap wrapRight right

/-- The text of a tree whose nested operands `inner` prints; `rungs` are the operators above it on
its spine, lowest first. -/
def printChain (inner : Expr → Except PrintError String) (rungs : List Rung) :
    Expr → Except PrintError String
  | binary symbol left right span => printChain inner (⟨symbol, left, right, span⟩ :: rungs) left
  | number value _ _ => rungs.foldlM (printRung inner) value.display
  | group e _ => do
    let text ← inner e
    rungs.foldlM (printRung inner) (inParentheses text)
  | unary symbol e _ => do
    let text ← inner e
    rungs.foldlM (printRung inner) (symbol ++ wrap e.needsParentheses text)
  | missing => .error .missingNode

/-- The text of a tree that takes at most the given levels; `whole` is the span of a tree that takes
more. -/
def printAt (whole : Span) : Nat → Expr → Except PrintError String
  | 0, _ => .error (.tooDeep whole)
  | 1, e => printChain (fun _ => .error (.tooDeep whole)) [] e
  | levels + 2, binary symbol left right span =>
    printChain (printAt whole levels) [] (binary symbol left right span)
  | levels + 2, e => printChain (printAt whole (levels + 1)) [] e

/-- The canonical text of a tree, for which it takes at most `levels` levels. -/
def print (e : Expr) (levels : Nat := printingLimit) : Except PrintError String :=
  printAt e.span levels e

/-- The text of an operand by itself: in parentheses unless it is a number or has its own. -/
def printOperand (e : Expr) (levels : Nat := printingLimit) : Except PrintError String := do
  let text ← e.print levels
  match e with
  | number .. | group .. => return text
  | _ => return inParentheses text

end Expr

/-- A step as an equation, for which an operand takes at most `levels` levels. -/
def Step.print (step : Step) (levels : Nat := Expr.printingLimit) : Except PrintError String :=
  match step with
  | unary symbol of _ _ result => do
    let text ← of.printOperand levels
    return symbol ++ text ++ " = " ++ result.display
  | binary symbol _ _ _ left right result =>
    .ok (left.display ++ " " ++ symbol ++ " " ++ right.display ++ " = " ++ result.display)

/-- The steps as equations. -/
def Step.printAll (steps : List Step) (levels : Nat := Expr.printingLimit) :
    Except PrintError (List String) :=
  steps.mapM fun step => step.print levels

end Reckoner
