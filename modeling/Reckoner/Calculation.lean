/-
# Calculations

A calculation takes a text all the way: variables are filled in, the text is folded to the
characters of expressions, read and evaluated, its steps are printed, and its terms are summed up.
The first stage that fails ends it. Four of the stages descend into the tree, each within a limit of
its own.
-/

import Reckoner.Expr.Parser
import Reckoner.Expr.Terms
import Reckoner.Glyph
import Reckoner.Limits
import Reckoner.Template

namespace Reckoner

/-- Why a text was not calculated. Errors about a place hold the folded text that it is in. -/
inductive CalculationError where
  | template (e : TemplateError)
  | text (e : Expr.TextError) (source : String)
  | evaluation (e : EvalError) (source : String)
  | step (e : PrintError)
  | summary (e : SummaryError)
  deriving DecidableEq

/-- The report of an error of reading `source`. -/
def Expr.TextError.report? (source : String) : Expr.TextError → Option Report
  | scan e => some (e.report source)
  | parse e => e.report? source

/-- The report of an error. -/
def CalculationError.report? : CalculationError → Option Report
  | template e => some e.report
  | text e source => e.report? source
  | evaluation e source => e.report? source
  | step e => e.report?
  | summary e => e.report?

/-- The wording of an error. -/
def CalculationError.message (e : CalculationError) : String :=
  match e.report?, e with
  | some report, _ => report.message
  | none, step e => e.message
  | none, summary e => e.message
  | none, evaluation (.failed fault _) _ => fault.message
  | none, _ => ""

/-- Everything that was found out about a text. -/
structure Calculation where
  /-- The folded text. -/
  source : String
  tree : Expr
  value : Decimal
  steps : List String
  rows : List TermRow
  deriving DecidableEq

namespace Calculation

/-- Calculates a text in which variables stand for the given values. -/
def run (limits : Limits) (settings : Settings) (bindings : Bindings) (text : String) :
    Except CalculationError Calculation := do
  let source := Glyph.fold (← (Template.fill bindings text).mapError .template)
  let tree ← (Expr.ofText source limits.reading).mapError (.text · source)
  let (value, steps) ← (tree.evaluate settings limits.evaluation).mapError (.evaluation · source)
  let steps ← (Step.printAll steps limits.steps).mapError .step
  let rows ← (tree.summarize settings limits.termValues limits.termTexts).mapError .summary
  return ⟨source, tree, value, steps, rows⟩

/-- Calculates a text whose variables another text defines. -/
def runDefined (limits : Limits) (settings : Settings) (definitions text : String) :
    Except CalculationError Calculation := do
  let bindings ← (Template.definitions definitions).mapError .template
  run limits settings bindings text

end Calculation
end Reckoner
