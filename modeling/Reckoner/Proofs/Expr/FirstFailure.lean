/-
# The trace and the first failure

A tree is evaluated along its spine, and what comes of it is that of the recursion on the tree. Here
both outcomes are said without the evaluator, by the list of all nodes with the operands of each
before it (`Expr.postorder`).

* A tree that has a value is evaluated to it, with one step for each sign and operator of the list,
  in its order (`evaluate_eq_ok_iff`).
* Otherwise some node of the list is the first one without a value. Its operands have values, so the
  fault is its own (`Fails`), and evaluation ends with that fault (`evaluate_eq_error_iff`), whose
  report is about the place of that node (`Fails.report?_eq`).
-/

import Reckoner.Proofs.Expr.Values

namespace Reckoner
namespace Expr

/-- The nodes of a tree, the operands of each before it and the left one before the right one. -/
def postorder : Expr → List Expr
  | missing => [missing]
  | number value raw span => [number value raw span]
  | group inner span => inner.postorder ++ [group inner span]
  | unary symbol operand span => operand.postorder ++ [unary symbol operand span]
  | binary symbol left right span =>
    left.postorder ++ (right.postorder ++ [binary symbol left right span])

/-- Whether a node is a sign or an operator. -/
def isOperation : Expr → Bool
  | unary .. | binary .. => true
  | _ => false

/-- The operations of a tree are its signs and operators, each once. -/
theorem filter_isOperation_postorder (e : Expr) :
    e.postorder.filter isOperation = e.operations := by
  induction e with
  | missing | number => rfl
  | group inner span ih =>
    rw [postorder, List.filter_append, ih]
    exact List.append_nil _
  | unary symbol operand span ih =>
    rw [postorder, List.filter_append, ih]
    rfl
  | binary symbol left right span ihl ihr =>
    rw [postorder, List.filter_append, List.filter_append, ihl, ihr, operations, List.append_assoc]
    rfl

end Expr

/-! ### Success -/

/-- A step is determined by its node. -/
theorem Step.Records.eq_of_node_eq {settings : Settings} {s t : Step} (hs : s.Records settings)
    (ht : t.Records settings) (h : s.node = t.node) : s = t := by
  cases s with
  | unary symbol e span operand result =>
    cases t with
    | unary =>
      obtain ⟨rfl, rfl, rfl⟩ := Expr.unary.inj h
      rw [Except.ok.inj (hs.1.symm.trans ht.1), Except.ok.inj (hs.2.symm.trans ht.2)]
    | binary => cases h
  | binary symbol left right span a b result =>
    cases t with
    | unary => cases h
    | binary =>
      obtain ⟨rfl, rfl, rfl, rfl⟩ := Expr.binary.inj h
      rw [Except.ok.inj (hs.1.symm.trans ht.1), Except.ok.inj (hs.2.1.symm.trans ht.2.1),
        Except.ok.inj (hs.2.2.symm.trans ht.2.2)]

/-- A trace is determined by its nodes. -/
theorem Step.eq_of_map_node_eq {settings : Settings} {ss ts : List Step}
    (hs : ∀ s ∈ ss, s.Records settings) (ht : ∀ t ∈ ts, t.Records settings)
    (h : ss.map Step.node = ts.map Step.node) : ss = ts := by
  induction ss generalizing ts with
  | nil => exact (List.map_eq_nil_iff.1 h.symm).symm
  | cons s ss ih =>
    obtain ⟨t, rest, rfl, hnode, hrest⟩ := List.map_eq_cons_iff.1 h.symm
    obtain ⟨hs, hss⟩ := List.forall_mem_cons.1 hs
    obtain ⟨ht, hts⟩ := List.forall_mem_cons.1 ht
    rw [hs.eq_of_node_eq ht hnode.symm, ih hss hts hrest.symm]

namespace Expr

variable {settings : Settings} {e : Expr}

/-- **A tree is evaluated to its value**, and the trace lists its operations in order. -/
theorem evaluate_eq_ok_iff {levels : ℕ} (hlevels : e.nesting ≤ levels) {v : Decimal}
    {steps : List Step} : e.evaluate settings levels = .ok (v, steps) ↔ e.value settings = .ok v ∧
      steps.map Step.node = e.operations ∧ ∀ step ∈ steps, step.Records settings := by
  constructor
  · exact fun h => (evaluate_eq_ok h).2
  · rintro ⟨hvalue, hnodes, hrecords⟩
    obtain ⟨steps', h⟩ := exists_evaluate hlevels hvalue
    obtain ⟨-, -, hnodes', hrecords'⟩ := evaluate_eq_ok h
    rw [h, Step.eq_of_map_node_eq hrecords hrecords' (hnodes.trans hnodes'.symm)]

/-! ### Failure -/

variable (settings) in
/-- The faults of a node itself: it is missing, or its operands have values to which its operator
cannot be applied. -/
inductive Fails : Expr → EvalError → Prop
  | missing : Fails missing .missingNode
  | unsupported {symbol : String} {left right : Expr} {span : Span} {a b : Decimal} :
      left.value settings = .ok a → right.value settings = .ok b →
        Operator.ofSymbol? symbol = none →
          Fails (binary symbol left right span) (.unsupported symbol span)
  | failed {symbol : String} {operator : Operator} {left right : Expr} {span : Span}
      {a b : Decimal} {fault : Fault} :
      left.value settings = .ok a → right.value settings = .ok b →
        Operator.ofSymbol? symbol = some operator →
          operator.operation.run settings a b = .error fault →
            Fails (binary symbol left right span) (.failed fault span)

variable (settings) in
/-- Of the nodes, the first one without a value is `node`, by its own fault. -/
def FirstFailure (nodes : List Expr) (node : Expr) (error : EvalError) : Prop :=
  ∃ before after, nodes = before ++ node :: after ∧
    (∀ d ∈ before, ∃ v, d.value settings = .ok v) ∧ Fails settings node error

variable {node : Expr} {error : EvalError}

/-- A symbol that is applied in vain is no operator, or its operation fails. -/
theorem fails_of_applySymbol {symbol : String} {left right : Expr} {span : Span} {a b : Decimal}
    (ha : left.value settings = .ok a) (hb : right.value settings = .ok b)
    (h : applySymbol settings symbol span a b = .error error) :
    Fails settings (binary symbol left right span) error := by
  rw [applySymbol] at h
  cases hsymbol : Operator.ofSymbol? symbol with
  | none =>
    rw [hsymbol] at h
    cases h
    exact .unsupported ha hb hsymbol
  | some operator =>
    simp only [hsymbol] at h
    cases hrun : operator.operation.run settings a b with
    | ok c => rw [hrun] at h; cases h
    | error fault =>
      rw [hrun] at h
      cases h
      exact .failed ha hb hsymbol hrun

/-- A node with a fault has no value. -/
theorem Fails.value_eq (h : Fails settings node error) : node.value settings = .error error := by
  cases h with
  | missing => rfl
  | unsupported ha hb hsymbol =>
    rw [value, ha, hb]
    simp only [bind, Except.bind, applySymbol, hsymbol]
  | failed ha hb hsymbol hrun =>
    rw [value, ha, hb]
    simp only [bind, Except.bind, applySymbol, hsymbol, hrun]
    rfl

/-- A fault is reported at the place of its node; only an unknown way of rounding has no report. -/
theorem Fails.report?_eq (h : Fails settings node error) (source : String) :
    (∃ kind message, error.report? source = some ⟨kind, message, node.span, source⟩ ∧
        kind.isEvaluation) ∨ error = .failed .unknownRounding node.span := by
  cases h with
  | missing => exact .inl ⟨_, _, rfl, rfl⟩
  | unsupported => exact .inl ⟨_, _, rfl, rfl⟩
  | @failed _ _ _ _ _ _ _ fault =>
    cases fault with
    | unknownRounding => exact .inr rfl
    | _ => exact .inl ⟨_, _, rfl, rfl⟩

/-- All nodes of a tree with a value have values. -/
theorem exists_value_of_mem_postorder {v : Decimal} (h : e.value settings = .ok v)
    (hnode : node ∈ e.postorder) : ∃ w, node.value settings = .ok w := by
  induction e generalizing v with
  | missing => cases h
  | number value raw span =>
    rw [List.mem_singleton.1 hnode]
    exact ⟨_, h⟩
  | group inner span ih =>
    rcases List.mem_append.1 hnode with hnode | hnode
    · exact ih h hnode
    · rw [List.mem_singleton.1 hnode]
      exact ⟨_, h⟩
  | unary symbol operand span ih =>
    rcases List.mem_append.1 hnode with hnode | hnode
    · obtain ⟨a, ha, -⟩ := bind_eq_ok_iff.1 h
      exact ih ha hnode
    · rw [List.mem_singleton.1 hnode]
      exact ⟨_, h⟩
  | binary symbol left right span ihl ihr =>
    obtain ⟨a, b, -, ha, hb, -⟩ := value_binary_eq_ok h
    rcases List.mem_append.1 hnode with hnode | hnode
    · exact ihl ha hnode
    · rcases List.mem_append.1 hnode with hnode | hnode
      · exact ihr hb hnode
      · rw [List.mem_singleton.1 hnode]
        exact ⟨_, h⟩

namespace FirstFailure

variable {nodes before after : List Expr}

/-- What comes behind a failure does not matter. -/
theorem append_right (h : FirstFailure settings nodes node error) (after : List Expr) :
    FirstFailure settings (nodes ++ after) node error := by
  obtain ⟨before, rest, rfl, hbefore, hfails⟩ := h
  exact ⟨before, rest ++ after, List.append_assoc .., hbefore, hfails⟩

/-- Nodes with values may come before a failure. -/
theorem append_left (hbefore : ∀ d ∈ before, ∃ v, d.value settings = .ok v)
    (h : FirstFailure settings after node error) :
    FirstFailure settings (before ++ after) node error := by
  obtain ⟨passed, rest, rfl, hpassed, hfails⟩ := h
  refine ⟨before ++ passed, rest, (List.append_assoc ..).symm, fun d hd => ?_, hfails⟩
  rcases List.mem_append.1 hd with hd | hd
  · exact hbefore d hd
  · exact hpassed d hd

/-- Nodes have one first failure at most. -/
theorem unique (h : FirstFailure settings nodes node error) {node' : Expr} {error' : EvalError}
    (h' : FirstFailure settings nodes node' error') : node = node' ∧ error = error' := by
  have hfind : ∀ {d : Expr} {err : EvalError}, FirstFailure settings nodes d err →
      nodes.find? (fun d => !(d.value settings).isOk) = some d := by
    rintro d err ⟨before, after, rfl, hbefore, hfails⟩
    refine List.find?_eq_some_iff_append.2 ⟨?_, before, after, rfl, fun c hc => ?_⟩
    · rw [hfails.value_eq]; rfl
    · obtain ⟨v, hv⟩ := hbefore c hc
      rw [hv]; rfl
  obtain rfl := Option.some.inj ((hfind h).symm.trans (hfind h'))
  obtain ⟨_, _, _, _, hfails⟩ := h
  obtain ⟨_, _, _, _, hfails'⟩ := h'
  exact ⟨rfl, Except.error.inj (hfails.value_eq.symm.trans hfails'.value_eq)⟩

end FirstFailure

/-- **A tree without a value has a first failure**, which is what its value fails with. -/
theorem exists_firstFailure (h : e.value settings = .error error) :
    ∃ node, FirstFailure settings e.postorder node error := by
  induction e generalizing error with
  | missing =>
    cases h
    exact ⟨missing, [], [], rfl, by simp, .missing⟩
  | number value raw span => cases h
  | group inner span ih =>
    obtain ⟨node, hnode⟩ := ih h
    exact ⟨node, hnode.append_right _⟩
  | unary symbol operand span ih =>
    cases hoperand : operand.value settings with
    | ok a => rw [value, hoperand] at h; cases h
    | error err =>
      rw [value, hoperand] at h
      cases h
      obtain ⟨node, hnode⟩ := ih hoperand
      exact ⟨node, hnode.append_right _⟩
  | binary symbol left right span ihl ihr =>
    cases hleft : left.value settings with
    | error err =>
      rw [value, hleft] at h
      cases h
      obtain ⟨node, hnode⟩ := ihl hleft
      exact ⟨node, hnode.append_right _⟩
    | ok a =>
      have hbefore := fun d (hd : d ∈ left.postorder) => exists_value_of_mem_postorder hleft hd
      cases hright : right.value settings with
      | error err =>
        rw [value, hleft, hright] at h
        cases h
        obtain ⟨node, hnode⟩ := ihr hright
        exact ⟨node, (hnode.append_right _).append_left hbefore⟩
      | ok b =>
        rw [value, hleft, hright] at h
        have hfails : Fails settings (binary symbol left right span) error :=
          fails_of_applySymbol hleft hright h
        have hself : FirstFailure settings [binary symbol left right span] _ error :=
          ⟨[], [], rfl, by simp, hfails⟩
        have hoperand := hself.append_left fun d hd => exists_value_of_mem_postorder hright hd
        exact ⟨_, hoperand.append_left hbefore⟩

/-- **A value fails with the fault of the first node that has none.** -/
theorem value_eq_error_iff : e.value settings = .error error ↔
    ∃ node, FirstFailure settings e.postorder node error := by
  refine ⟨exists_firstFailure, fun ⟨node, hnode⟩ => ?_⟩
  cases hvalue : e.value settings with
  | ok v =>
    obtain ⟨before, after, hsplit, -, hfails⟩ := hnode
    have hmem : node ∈ e.postorder := hsplit ▸ List.mem_append_right _ (List.mem_cons_self ..)
    obtain ⟨w, hw⟩ := exists_value_of_mem_postorder hvalue hmem
    rw [hfails.value_eq] at hw
    cases hw
  | error error' =>
    obtain ⟨node', hnode'⟩ := exists_firstFailure hvalue
    rw [(hnode.unique hnode').2]

/-- **Evaluation with enough levels** is that by plain recursion, with the steps in order. -/
theorem evaluate_eq_plainEvaluate {levels : ℕ} (hlevels : e.nesting ≤ levels) :
    e.evaluate settings levels =
      (e.plainEvaluate settings []).map fun r => (r.1, r.2.reverse) := by
  rw [evaluate, evaluateAt_eq_plainEvaluate e.span hlevels]
  cases e.plainEvaluate settings [] <;> rfl

/-- **Evaluation fails with the fault of the first node without a value.** -/
theorem evaluate_eq_error_iff {levels : ℕ} (hlevels : e.nesting ≤ levels) :
    e.evaluate settings levels = .error error ↔
      ∃ node, FirstFailure settings e.postorder node error := by
  obtain ⟨new, heq, -⟩ := @plainEvaluate_eq settings e []
  rw [← value_eq_error_iff, evaluate_eq_plainEvaluate hlevels, heq]
  cases e.value settings with
  | ok v => exact ⟨nofun, nofun⟩
  | error err =>
    exact ⟨fun h => congrArg _ (Except.error.inj h), fun h => congrArg _ (Except.error.inj h)⟩

/-- **Evaluation is the recursion on the tree, with its trace and its first failure.** Of a tree
with no more levels than there are, it returns what the recursion returns. It ends with a value and
steps exactly if the value is that of the tree and the steps are those of its signs and operators,
operands first, each with the values of its operands and its own. It ends with an error exactly if
that is the fault of the first node without a value; its report is about the place of that node, in
whatever text. -/
theorem evaluate_refines (hlevels : e.nesting ≤ nestingLimit) :
    e.evaluate settings = (e.plainEvaluate settings []).map (fun r => (r.1, r.2.reverse)) ∧
      (∀ v steps, e.evaluate settings = .ok (v, steps) ↔ e.value settings = .ok v ∧
        steps.map Step.node = e.postorder.filter isOperation ∧
          ∀ step ∈ steps, step.Records settings) ∧
      (∀ error, e.evaluate settings = .error error ↔
        ∃ node, FirstFailure settings e.postorder node error) ∧
      ∀ node error, FirstFailure settings e.postorder node error → ∀ source,
        (∃ kind message, error.report? source = some ⟨kind, message, node.span, source⟩ ∧
          kind.isEvaluation) ∨ error = .failed .unknownRounding node.span := by
  refine ⟨evaluate_eq_plainEvaluate hlevels, fun v steps => ?_, fun error =>
    evaluate_eq_error_iff hlevels, fun node error hnode source => ?_⟩
  · rw [filter_isOperation_postorder]
    exact evaluate_eq_ok_iff hlevels
  · obtain ⟨_, _, _, _, hfails⟩ := hnode
    exact hfails.report?_eq source

/-- The value of `2 - -1`, and the failure of `1 / 0 + (1 & _)`, where a node is missing and an
operator unknown behind the division. -/
theorem evaluate_refines_competing :
    let two : Decimal := ⟨false, 2, 0⟩
    let minusOne : Decimal := ⟨true, 1, 0⟩
    let negation := unary "-" (number .one "1" ⟨5, 6⟩) ⟨4, 6⟩
    let difference := binary "-" (number two "2" ⟨0, 1⟩) negation ⟨0, 6⟩
    let quotient := binary "/" (number .one "1" ⟨0, 1⟩) (number .zero "0" ⟨4, 5⟩) ⟨0, 5⟩
    let unknown := binary "&" (number .one "1" ⟨9, 10⟩) missing ⟨9, 14⟩
    let e := binary "+" quotient unknown ⟨0, 14⟩
    difference.evaluate {} = .ok (⟨false, 3, 0⟩, [
        .unary "-" (number .one "1" ⟨5, 6⟩) ⟨4, 6⟩ .one minusOne,
        .binary "-" (number two "2" ⟨0, 1⟩) negation ⟨0, 6⟩ two minusOne ⟨false, 3, 0⟩]) ∧
      FirstFailure {} e.postorder quotient (.failed .divisionByZero ⟨0, 5⟩) ∧
      e.evaluate {} = .error (.failed .divisionByZero ⟨0, 5⟩) := by
  intro two minusOne negation difference quotient unknown e
  have hlevels : difference.nesting ≤ nestingLimit ∧ e.nesting ≤ nestingLimit := by decide
  obtain ⟨-, hvalue, -, -⟩ := @evaluate_refines {} _ hlevels.1
  obtain ⟨-, -, herror, -⟩ := @evaluate_refines {} _ hlevels.2
  have hfirst : FirstFailure {} e.postorder quotient (.failed .divisionByZero ⟨0, 5⟩) :=
    ⟨[number .one "1" ⟨0, 1⟩, number .zero "0" ⟨4, 5⟩], _, rfl,
      List.forall_mem_cons.2 ⟨⟨_, rfl⟩, List.forall_mem_singleton.2 ⟨_, rfl⟩⟩,
      .failed rfl rfl rfl rfl⟩
  refine ⟨(hvalue _ _).2 ⟨by decide, by decide, ?_⟩, hfirst, (herror _).2 ⟨_, hfirst⟩⟩
  exact List.forall_mem_cons.2 ⟨⟨rfl, rfl⟩, List.forall_mem_singleton.2 ⟨rfl, rfl, by decide⟩⟩

end Expr
end Reckoner
