/-
# Evaluating expressions

A tree is evaluated from the inside: a left operand before the right one, both before their
operator. Every sign and every operator leaves a step with its operands and its result, in the order
in which they were applied. A long chain is walked along its spine: down to the operand at its foot
(`evaluateChain`), then up, one operator at a time (`applyRung`).

The first failure ends the evaluation. A failed operation has the span of its operator's node.
-/

import Reckoner.Decimal.Arithmetic
import Reckoner.Expr
import Reckoner.Report

namespace Reckoner

/-- One applied sign or operator: the node's parts, then the values that went in and came out. -/
inductive Step where
  | unary (symbol : String) (of : Expr) (span : Span) (operand result : Decimal)
  | binary (symbol : String) (leftOf rightOf : Expr) (span : Span) (left right result : Decimal)
  deriving DecidableEq

/-- The node that a step applied. -/
def Step.node : Step → Expr
  | unary symbol of span _ _ => .unary symbol of span
  | binary symbol leftOf rightOf span _ _ _ => .binary symbol leftOf rightOf span

/-- Why a tree has no value. -/
inductive EvalError where
  /-- A node that is not there was reached. -/
  | missingNode
  /-- A symbol is no operator. -/
  | unsupported (symbol : String) (span : Span)
  /-- An operation failed. -/
  | failed (fault : Fault) (span : Span)
  /-- The tree has too many levels. -/
  | tooDeep (span : Span)
  deriving DecidableEq

/-- The report of an error in a tree read from `source`. That no rounding mode was set is no error
of the expression and has none. -/
def EvalError.report? (source : String) : EvalError → Option Report
  | missingNode =>
    some ⟨.evaluation, "unknown node type " ++ Expr.missing.sort, Span.none, source⟩
  | unsupported symbol span =>
    some ⟨.evaluation, "unsupported operator '" ++ symbol ++ "'", span, source⟩
  | failed .unknownRounding _ => none
  | failed fault span =>
    match fault.reason? with
    | some reason => some ⟨.undefined reason, fault.message, span, source⟩
    | none => some ⟨.evaluation, "internal evaluation error: " ++ fault.message, span, source⟩
  | tooDeep span => some ⟨.evaluation, Expr.tooDeep, span, source⟩

/-- What an operation computes. -/
def Operation.run (settings : Settings) : Operation → Decimal → Decimal → Except Fault Decimal
  | add => Decimal.add
  | subtract => Decimal.subtract
  | multiply => Decimal.multiply
  | divide => Decimal.divide settings
  | modulo => Decimal.modulo
  | power => Decimal.power settings

namespace Expr

/-- A value, and the steps so far, latest first. -/
abbrev Traced := Decimal × List Step

/-- The value of an operator's node from those of its operands. -/
def applySymbol (settings : Settings) (symbol : String) (span : Span) (a b : Decimal) :
    Except EvalError Decimal :=
  match Operator.ofSymbol? symbol with
  | none => .error (.unsupported symbol span)
  | some operator => (operator.operation.run settings a b).mapError (.failed · span)

/-- The value of a sign's node from that of its operand: any sign but a minus is a plus. -/
def applySign (symbol : String) (x : Decimal) : Decimal := if symbol = "-" then x.negate else x

/-- Applies one operator of a spine to what stands below it. -/
def applyRung (settings : Settings) (inner : Expr → List Step → Except EvalError Traced)
    (below : Traced) (rung : Rung) : Except EvalError Traced := do
  let (right, steps) ← inner rung.right below.2
  let result ← applySymbol settings rung.symbol rung.span below.1 right
  return (result,
    .binary rung.symbol rung.left rung.right rung.span below.1 right result :: steps)

/-- Evaluates a tree whose nested operands `inner` evaluates; `rungs` are the operators above it on
its spine, lowest first. -/
def evaluateChain (settings : Settings) (inner : Expr → List Step → Except EvalError Traced)
    (rungs : List Rung) (steps : List Step) : Expr → Except EvalError Traced
  | binary symbol left right span =>
    evaluateChain settings inner (⟨symbol, left, right, span⟩ :: rungs) steps left
  | number value _ _ => rungs.foldlM (applyRung settings inner) (value, steps)
  | group e _ => do
    let below ← inner e steps
    rungs.foldlM (applyRung settings inner) below
  | unary symbol e span => do
    let (operand, steps) ← inner e steps
    let result := applySign symbol operand
    rungs.foldlM (applyRung settings inner)
      (result, .unary symbol e span operand result :: steps)
  | missing => .error .missingNode

/-- Evaluates a tree of at most `depth` levels; `whole` is the span of a tree with more. -/
def evaluateAt (settings : Settings) (whole : Span) :
    Nat → Expr → List Step → Except EvalError Traced
  | 0, _, _ => .error (.tooDeep whole)
  | depth + 1, e, steps =>
    evaluateChain settings (evaluateAt settings whole depth) [] steps e

/-- The value of a tree and the steps to it, first one first. At most `levels` levels are
evaluated. -/
def evaluate (settings : Settings) (e : Expr) (levels : Nat := nestingLimit) :
    Except EvalError (Decimal × List Step) := do
  let (value, steps) ← evaluateAt settings e.span levels e []
  return (value, steps.reverse)

end Expr
end Reckoner
