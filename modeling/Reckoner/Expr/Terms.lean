/-
# The terms of a sum

A tree whose top is a chain of `+` and `-`, nested to either side, is a sum of signed terms; its
other nodes, groups among them, are terms as they stand. A term that is subtracted an odd number of
times is put under a minus sign with its own span, so that every term is added.

`Expr.terms` works through a list of trees yet to be split, each with its sign. `Expr.summarize`
evaluates each term alone and adds it to a running total, which starts at zero.
-/

import Reckoner.Expr.Printer

namespace Reckoner

/-- Why a sum has no summary. -/
inductive SummaryError where
  /-- A missing node is subtracted, and lends its sign no span. -/
  | noSpan
  /-- A term has no value. -/
  | term (e : EvalError)
  /-- A total has no value. -/
  | total (fault : Fault)
  /-- A term has no text. -/
  | text (e : PrintError)
  deriving DecidableEq

/-- One term with the total of all terms up to it. -/
structure TermRow where
  index : Nat
  term : Expr
  text : String
  value : Decimal
  total : Decimal
  deriving DecidableEq

namespace Expr

/-- A tree that is no sum, with its sign. -/
def asTerm (negated : Bool) (e : Expr) : Except SummaryError Expr :=
  if negated then
    match e.span? with
    | some span => .ok (unary "-" e span)
    | none => .error .noSpan
  else .ok e

/-- How many nodes are yet to be split. -/
def pendingSize : List (Expr × Bool) → Nat
  | [] => 0
  | (e, _) :: pending => e.size + pendingSize pending

/-- Splits the pending trees, first one first; `done` holds the terms so far, last one first. -/
def splitTerms (done : List Expr) (pending : List (Expr × Bool)) :
    Except SummaryError (List Expr) :=
  match pending with
  | [] => .ok done.reverse
  | (binary symbol left right span, negated) :: pending =>
    if Operator.isAdditive symbol then
      splitTerms done ((left, negated) :: (right, negated != (symbol == "-")) :: pending)
    else do
      let term ← asTerm negated (binary symbol left right span)
      splitTerms (term :: done) pending
  | (e, negated) :: pending => do
    let term ← asTerm negated e
    splitTerms (term :: done) pending
termination_by pendingSize pending
decreasing_by
  all_goals simp only [pendingSize, size]
  · omega
  · omega
  · have : 0 < e.size := by cases e <;> simp [size]
    omega

/-- The terms of a tree, in the order of the text. -/
def terms (e : Expr) : Except SummaryError (List Expr) := splitTerms [] [(e, false)]

/-- The row of a term behind the rows `done`, of which the last comes first. At most `values` levels
of the term are evaluated, and its text takes at most `texts` levels. -/
def addRow (settings : Settings) (values texts : Nat) (done : List TermRow) (term : Expr) :
    Except SummaryError (List TermRow) := do
  let index := (done.head?.map TermRow.index).getD 0 + 1
  let before := (done.head?.map TermRow.total).getD Decimal.zero
  let (value, _) ← (term.evaluate settings values).mapError .term
  let total ← (before.add value).mapError .total
  let text ← (term.print texts).mapError .text
  return ⟨index, term, text, value, total⟩ :: done

/-- The terms of a tree with their texts, values and running totals. -/
def summarize (settings : Settings) (e : Expr) (values : Nat := nestingLimit)
    (texts : Nat := printingLimit) : Except SummaryError (List TermRow) := do
  let terms ← e.terms
  let rows ← terms.foldlM (addRow settings values texts) []
  return rows.reverse

end Expr

/-- The report of an error of a summary. -/
def SummaryError.report? : SummaryError → Option Report
  | term e => e.report? ""
  | text e => e.report?
  | noSpan | total _ => none

/-- The wording of an error that has no report. -/
def SummaryError.message : SummaryError → String
  | noSpan => "'NoneType' object has no attribute 'span'"
  | term e => ((e.report? "").map Report.message).getD (Fault.message .unknownRounding)
  | total fault => fault.message
  | text e => e.message

end Reckoner
