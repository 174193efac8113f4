/-
# Evaluating by recursion

A tree is evaluated along its spine, as it is printed; that this is the plain recursion on the tree
(`plainEvaluate`) is seen in the same way. What the recursion returns is then told apart:

* the value of every node is a function of the node alone (`Expr.value`);
* the steps are those of the signs and operators of the tree, operands before their operator
  (`Expr.operations`), and each holds the values of its operands and of its node (`Step.Records`).
-/

import Mathlib.Order.Basic
import Reckoner.Expr.Evaluation
import Reckoner.Proofs.Outcome

namespace Reckoner
namespace Expr

variable (settings : Settings)

/-- The value of a tree and its steps by recursion; the steps so far are the latest first. -/
def plainEvaluate : Expr → List Step → Except EvalError Traced
  | missing, _ => .error .missingNode
  | number value _ _, steps => .ok (value, steps)
  | group inner _, steps => inner.plainEvaluate steps
  | unary symbol e span, steps => do
    let (operand, steps) ← e.plainEvaluate steps
    let result := applySign symbol operand
    return (result, .unary symbol e span operand result :: steps)
  | binary symbol left right span, steps => do
    let (a, steps) ← left.plainEvaluate steps
    let (b, steps) ← right.plainEvaluate steps
    let result ← applySymbol settings symbol span a b
    return (result, .binary symbol left right span a b result :: steps)

/-- The value of a tree. -/
def value : Expr → Except EvalError Decimal
  | missing => .error .missingNode
  | number value _ _ => .ok value
  | group inner _ => inner.value
  | unary symbol e _ => do
    let operand ← e.value
    return applySign symbol operand
  | binary symbol left right span => do
    let a ← left.value
    let b ← right.value
    applySymbol settings symbol span a b

/-- The numbers of a tree. -/
def numbers : Expr → List Decimal
  | missing => []
  | number value _ _ => [value]
  | group inner _ => inner.numbers
  | unary _ e _ => e.numbers
  | binary _ left right _ => left.numbers ++ right.numbers

/-- The signs and operators of a tree, each behind its operands. -/
def operations : Expr → List Expr
  | missing | number .. => []
  | group inner _ => inner.operations
  | unary symbol e span => e.operations ++ [unary symbol e span]
  | binary symbol left right span =>
    left.operations ++ right.operations ++ [binary symbol left right span]

end Expr

/-- Whether a step holds the values of its operands and of its node. -/
def Step.Records (settings : Settings) : Step → Prop
  | unary symbol e span operand result =>
    e.value settings = .ok operand ∧ (Expr.unary symbol e span).value settings = .ok result
  | binary symbol left right span a b result =>
    left.value settings = .ok a ∧ right.value settings = .ok b ∧
      (Expr.binary symbol left right span).value settings = .ok result

/-- The value that a step came to. -/
def Step.result : Step → Decimal
  | unary _ _ _ _ result | binary _ _ _ _ _ _ result => result

/-- A step that records an operation has its value. -/
theorem Step.Records.value_node {settings : Settings} {step : Step} (h : step.Records settings) :
    step.node.value settings = .ok step.result := by
  cases step with
  | unary => exact h.2
  | binary => exact h.2.2

namespace Expr

variable {settings : Settings}

/-! ### Values -/

/-- An operation that succeeds is that of a known symbol. -/
theorem applySymbol_eq_ok {symbol : String} {span : Span} {a b c : Decimal}
    (h : applySymbol settings symbol span a b = .ok c) : ∃ operator,
      Operator.ofSymbol? symbol = some operator ∧ operator.operation.run settings a b = .ok c := by
  rw [applySymbol] at h
  split at h
  · cases h
  · rename_i operator hoperator
    exact ⟨operator, hoperator, mapError_eq_ok_iff.1 h⟩

/-- An operation has a value if its operands have and it succeeds on them. -/
theorem value_binary_eq_ok {symbol : String} {left right : Expr} {span : Span} {v : Decimal}
    (h : (binary symbol left right span).value settings = .ok v) : ∃ a b operator,
      left.value settings = .ok a ∧ right.value settings = .ok b ∧
        Operator.ofSymbol? symbol = some operator ∧
          operator.operation.run settings a b = .ok v := by
  obtain ⟨a, ha, h⟩ := bind_eq_ok_iff.1 h
  obtain ⟨b, hb, h⟩ := bind_eq_ok_iff.1 h
  obtain ⟨operator, hoperator, hrun⟩ := applySymbol_eq_ok h
  exact ⟨a, b, operator, ha, hb, hoperator, hrun⟩

/-- **What holds of the numbers of a tree and is kept by all operations holds of its value.** -/
theorem value_induction {P : Decimal → Prop} (hsign : ∀ x, P x → P x.negate)
    (hrun : ∀ {operation a b c}, Operation.run settings operation a b = .ok c → P a → P b → P c)
    {e : Expr} (hnumbers : ∀ x ∈ e.numbers, P x) {v : Decimal} (h : e.value settings = .ok v) :
    P v := by
  induction e generalizing v with
  | missing => cases h
  | number value raw span =>
    cases h
    exact hnumbers _ (List.mem_singleton_self _)
  | group inner span ih => exact ih hnumbers h
  | unary symbol e span ih =>
    obtain ⟨operand, hoperand, h⟩ := bind_eq_ok_iff.1 h
    cases h
    rw [applySign]
    split_ifs
    · exact hsign _ (ih hnumbers hoperand)
    · exact ih hnumbers hoperand
  | binary symbol left right span ihl ihr =>
    obtain ⟨a, b, operator, ha, hb, -, hv⟩ := value_binary_eq_ok h
    exact hrun hv (ihl (fun x hx => hnumbers x (List.mem_append_left _ hx)) ha)
      (ihr (fun x hx => hnumbers x (List.mem_append_right _ hx)) hb)

/-! ### The walk along the spine -/

/-- The walk down a spine evaluates its foot and then the operators, lowest first, unless what
evaluates the operands gives up. -/
theorem evaluateChain_same {p : EvalError → Prop}
    {inner : Expr → List Step → Except EvalError Traced} {depth : ℕ}
    (hinner : ∀ d : Expr, d.nesting ≤ depth → ∀ steps,
      SameUnless p (inner d steps) (d.plainEvaluate settings steps))
    {e : Expr} (h : e.nesting ≤ depth + 1) (rungs : List Rung) (steps : List Step) :
    SameUnless p (evaluateChain settings inner rungs steps e)
      (e.plainEvaluate settings steps >>= rungs.foldlM (applyRung settings inner)) := by
  induction e generalizing rungs with
  | missing | number => exact .refl p _
  | group e span _ =>
    rw [evaluateChain, plainEvaluate]
    exact (hinner e (Nat.le_of_succ_le_succ h) steps).bind fun below => .refl p _
  | unary symbol e span _ =>
    rw [evaluateChain, plainEvaluate, bind_assoc]
    exact (hinner e (Nat.le_of_succ_le_succ h) steps).bind fun below => .refl p _
  | binary symbol left right span ihl _ =>
    obtain ⟨hleft, hright⟩ := Nat.max_le.1 h
    have hrung : ∀ below, SameUnless p (applyRung settings inner below ⟨symbol, left, right, span⟩)
        (do
          let (b, steps) ← right.plainEvaluate settings below.2
          let result ← applySymbol settings symbol span below.1 b
          return (result, .binary symbol left right span below.1 b result :: steps)) := fun below =>
      (hinner right (Nat.le_of_succ_le_succ hright) _).bind fun r => .refl p _
    rw [evaluateChain, plainEvaluate, bind_assoc]
    exact (ihl hleft _).trans ((SameUnless.refl p _).bind fun below =>
      (hrung below).bind fun r => .refl p _)

/-- **Evaluation is the recursion on the tree**, unless the tree has more levels than there are. -/
theorem evaluateAt_same (whole : Span) (depth : ℕ) (e : Expr) (steps : List Step) :
    SameUnless (fun error => error = .tooDeep whole ∧ depth < e.nesting)
      (evaluateAt settings whole depth e steps) (e.plainEvaluate settings steps) := by
  induction depth generalizing e steps with
  | zero => exact .error ⟨rfl, e.nesting_pos⟩ _
  | succ depth ih =>
    have hpos := e.nesting_pos
    rw [← bind_pure (e.plainEvaluate settings steps)]
    refine evaluateChain_same (fun d hd steps => (ih d steps).mono fun _ hdeep => ?_)
      (show e.nesting ≤ e.nesting - 1 + 1 by omega) [] steps
    exact ⟨hdeep.1, by omega⟩

/-- Evaluation is the recursion on the tree, as far as the levels last. -/
theorem evaluateAt_eq_plainEvaluate (whole : Span) {depth : ℕ} {e : Expr} (h : e.nesting ≤ depth)
    (steps : List Step) :
    evaluateAt settings whole depth e steps = e.plainEvaluate settings steps :=
  (evaluateAt_same whole depth e steps).eq fun _ hdeep => absurd hdeep.2 (Nat.not_lt.2 h)

/-- Operators that were applied had their right operands evaluated. -/
theorem nesting_le_of_foldlM {inner : Expr → List Step → Except EvalError Traced} {depth : ℕ}
    (hinner : ∀ d steps r, inner d steps = .ok r → d.nesting ≤ depth) {rungs : List Rung}
    {below r : Traced} (h : rungs.foldlM (applyRung settings inner) below = .ok r) :
    ∀ rung ∈ rungs, rung.right.nesting ≤ depth := by
  induction rungs generalizing below with
  | nil => simp
  | cons rung rungs ih =>
    rw [List.foldlM_cons] at h
    obtain ⟨next, hnext, hrest⟩ := bind_eq_ok_iff.1 h
    obtain ⟨right, hright, -⟩ := bind_eq_ok_iff.1 hnext
    exact List.forall_mem_cons.2 ⟨hinner _ _ _ hright, ih hrest⟩

/-- A walk that comes to an end meets no more levels than there are. -/
theorem nesting_le_of_evaluateChain {inner : Expr → List Step → Except EvalError Traced} {depth : ℕ}
    (hinner : ∀ d steps r, inner d steps = .ok r → d.nesting ≤ depth) {e : Expr}
    {rungs : List Rung} {steps : List Step} {r : Traced}
    (h : evaluateChain settings inner rungs steps e = .ok r) :
    e.nesting ≤ depth + 1 ∧ ∀ rung ∈ rungs, rung.right.nesting ≤ depth := by
  induction e generalizing rungs with
  | missing => cases h
  | number value raw span => exact ⟨Nat.le_add_left _ _, nesting_le_of_foldlM hinner h⟩
  | group e span _ =>
    obtain ⟨below, he, hrungs⟩ := bind_eq_ok_iff.1 h
    exact ⟨Nat.succ_le_succ (hinner _ _ _ he), nesting_le_of_foldlM hinner hrungs⟩
  | unary symbol e span _ =>
    obtain ⟨below, he, hrungs⟩ := bind_eq_ok_iff.1 h
    exact ⟨Nat.succ_le_succ (hinner _ _ _ he), nesting_le_of_foldlM hinner hrungs⟩
  | binary symbol left right span ihl _ =>
    obtain ⟨hleft, hrungs⟩ := ihl h
    obtain ⟨hright, hrungs⟩ := List.forall_mem_cons.1 hrungs
    exact ⟨Nat.max_le.2 ⟨hleft, Nat.succ_le_succ hright⟩, hrungs⟩

/-- What is evaluated is within the levels. -/
theorem nesting_le_of_evaluateAt {whole : Span} {depth : ℕ} {e : Expr} {steps : List Step}
    {r : Traced} (h : evaluateAt settings whole depth e steps = .ok r) : e.nesting ≤ depth := by
  induction depth generalizing e steps r with
  | zero => cases h
  | succ depth ih => exact (nesting_le_of_evaluateChain (fun _ _ _ => ih) h).1

/-! ### Values and steps -/

/-- **The recursion returns the value of the tree, and as steps the operations of the tree, each
with the values of its operands and its own.** -/
theorem plainEvaluate_eq (e : Expr) (steps : List Step) :
    ∃ new : List Step, e.plainEvaluate settings steps =
        (e.value settings).map (fun v => (v, new.reverse ++ steps)) ∧
      ∀ v, e.value settings = .ok v →
        new.map Step.node = e.operations ∧ ∀ step ∈ new, step.Records settings := by
  induction e generalizing steps with
  | missing => exact ⟨[], rfl, nofun⟩
  | number value raw span => exact ⟨[], rfl, fun _ _ => ⟨rfl, by simp⟩⟩
  | group inner span ih => exact ih steps
  | unary symbol e span ih =>
    obtain ⟨new, heq, hnew⟩ := ih steps
    rw [plainEvaluate, heq, value, operations]
    cases hvalue : e.value settings with
    | error err => exact ⟨[], rfl, nofun⟩
    | ok operand =>
      obtain ⟨hnodes, hrecords⟩ := hnew operand hvalue
      refine ⟨new ++ [.unary symbol e span operand (applySign symbol operand)], ?_, fun v hv => ?_⟩
      · rw [List.reverse_append]; rfl
      · refine ⟨by rw [List.map_append, hnodes]; rfl, fun step hstep => ?_⟩
        rcases List.mem_append.1 hstep with hstep | hstep
        · exact hrecords step hstep
        · rw [List.mem_singleton.1 hstep]
          refine ⟨hvalue, ?_⟩
          rw [value, hvalue]
          rfl
  | binary symbol left right span ihl ihr =>
    obtain ⟨newL, heqL, hnewL⟩ := ihl steps
    rw [plainEvaluate, heqL, value, operations]
    cases hvalueL : left.value settings with
    | error err => exact ⟨[], rfl, nofun⟩
    | ok a =>
      obtain ⟨hnodesL, hrecordsL⟩ := hnewL a hvalueL
      obtain ⟨newR, heqR, hnewR⟩ := ihr (newL.reverse ++ steps)
      simp only [Except.map, bind, Except.bind]
      rw [heqR]
      cases hvalueR : right.value settings with
      | error err => exact ⟨[], rfl, nofun⟩
      | ok b =>
        obtain ⟨hnodesR, hrecordsR⟩ := hnewR b hvalueR
        simp only [Except.map]
        cases happly : applySymbol settings symbol span a b with
        | error err => exact ⟨[], rfl, nofun⟩
        | ok result =>
          refine ⟨newL ++ newR ++ [.binary symbol left right span a b result], ?_, fun v hv => ?_⟩
          · rw [List.reverse_append, List.reverse_append, List.append_assoc, List.append_assoc]; rfl
          · refine ⟨by rw [List.map_append, List.map_append, hnodesL, hnodesR]; rfl,
              fun step hstep => ?_⟩
            rcases List.mem_append.1 hstep with hstep | hstep
            · rcases List.mem_append.1 hstep with hstep | hstep
              · exact hrecordsL step hstep
              · exact hrecordsR step hstep
            · rw [List.mem_singleton.1 hstep]
              refine ⟨hvalueL, hvalueR, ?_⟩
              rw [value, hvalueL, hvalueR]
              exact happly

/-- **What evaluation returns** is the value of the tree and its operations. -/
theorem evaluate_eq_ok {e : Expr} {levels : ℕ} {v : Decimal} {steps : List Step}
    (h : e.evaluate settings levels = .ok (v, steps)) : e.nesting ≤ levels ∧
      e.value settings = .ok v ∧ steps.map Step.node = e.operations ∧
        ∀ step ∈ steps, step.Records settings := by
  obtain ⟨r, hr, hreturn⟩ := bind_eq_ok_iff.1 h
  have hnesting := nesting_le_of_evaluateAt hr
  rw [evaluateAt_eq_plainEvaluate e.span hnesting] at hr
  obtain ⟨new, heq, hnew⟩ := @plainEvaluate_eq settings e []
  rw [heq] at hr
  cases hvalue : e.value settings with
  | error err => rw [hvalue] at hr; cases hr
  | ok x =>
    rw [hvalue] at hr
    cases hr
    cases hreturn
    rw [List.append_nil, List.reverse_reverse]
    exact ⟨hnesting, rfl, hnew _ hvalue⟩

/-- A tree of no more levels than there are is evaluated if it has a value. -/
theorem exists_evaluate {e : Expr} {levels : ℕ} (hnesting : e.nesting ≤ levels) {v : Decimal}
    (h : e.value settings = .ok v) : ∃ steps, e.evaluate settings levels = .ok (v, steps) := by
  obtain ⟨new, heq, -⟩ := @plainEvaluate_eq settings e []
  refine ⟨(new.reverse ++ []).reverse, ?_⟩
  rw [evaluate, evaluateAt_eq_plainEvaluate e.span hnesting, heq, h]
  rfl

/-- **Evaluation to any level** is evaluation to enough levels, unless it gives up. -/
theorem evaluate_same (settings : Settings) {e : Expr} {enough : ℕ} (h : e.nesting ≤ enough)
    (levels : ℕ) : SameUnless (· = .tooDeep e.span) (e.evaluate settings levels)
      (e.evaluate settings enough) := by
  rw [evaluate, evaluate, evaluateAt_eq_plainEvaluate e.span h]
  exact ((evaluateAt_same e.span levels e []).mono fun _ => And.left).bind fun r => .refl _ _

end Expr
end Reckoner
