/-
# A failure in its excerpt

An undefined operation is reported at the operator that failed. The characters there are an
expression of their own: read alone they give the node of that operator, and its value fails in the
same way, at the whole of the excerpt, while its operands have values (`evaluate_excerpt`).

The value of a tree depends on spans in its errors only (`value_mapSpans`), so what moves a node to
the start of a text moves its failure.
-/

import Reckoner.Proofs.Expr.Excerpt
import Reckoner.Proofs.Expr.FirstFailure

namespace Reckoner

/-- An error whose span is changed. -/
def EvalError.mapSpan (f : Span → Span) : EvalError → EvalError
  | missingNode => missingNode
  | unsupported symbol span => unsupported symbol (f span)
  | failed fault span => failed fault (f span)
  | tooDeep span => tooDeep (f span)

/-- The length of an excerpt is that of its span. -/
theorem Span.length_excerpt {source : String} {span : Span} (hstart : 0 ≤ span.start)
    (hlt : span.start < span.stop) (hstop : span.stop ≤ source.length) :
    ((span.excerpt source).length : ℤ) = span.stop - span.start := by
  have hlength : source.toList.length = source.length := String.length_toList
  rw [Span.excerpt, String.length_ofList, List.length_take, List.length_drop, hlength]
  omega

namespace Expr

variable {settings : Settings}

/-- Every node of a tree is listed before it. -/
theorem postorder_perm_nodes (e : Expr) : e.postorder.Perm e.nodes := by
  induction e with
  | missing | number => exact .refl _
  | group inner span ih | unary symbol inner span ih =>
    exact (ih.append_right _).trans (List.perm_append_singleton _ _)
  | binary symbol left right span ihl ihr =>
    rw [postorder, ← List.append_assoc]
    exact ((ihl.append ihr).append_right _).trans (List.perm_append_singleton _ _)

/-- Operations are nodes. -/
theorem operations_subset_nodes (e : Expr) : e.operations ⊆ e.nodes := by
  intro node h
  rw [← filter_isOperation_postorder] at h
  exact (postorder_perm_nodes e).mem_iff.1 (List.mem_filter.1 h).1

/-- What fails first is a node of the tree. -/
theorem FirstFailure.mem_nodes {e node : Expr} {error : EvalError}
    (h : FirstFailure settings e.postorder node error) : node ∈ e.nodes := by
  obtain ⟨before, after, hsplit, -⟩ := h
  rw [← (postorder_perm_nodes e).mem_iff, hsplit]
  exact List.mem_append_right _ (List.mem_cons_self ..)

/-- A tree is one of its nodes. -/
theorem self_mem_nodes (e : Expr) : e ∈ e.nodes := by
  cases e <;> exact List.mem_cons_self ..

/-- So are its children. -/
theorem mem_nodes_of_mem_children {e child : Expr} (h : child ∈ e.children) : child ∈ e.nodes := by
  cases e with
  | missing | number => exact absurd h List.not_mem_nil
  | group | unary =>
    rw [List.mem_singleton.1 h]
    exact List.mem_cons_of_mem _ (self_mem_nodes _)
  | binary =>
    rcases List.mem_pair.1 h with rfl | rfl
    · exact List.mem_cons_of_mem _ (List.mem_append_left _ (self_mem_nodes _))
    · exact List.mem_cons_of_mem _ (List.mem_append_right _ (self_mem_nodes _))

/-! ### Values elsewhere -/

/-- Moving the place of an operation moves the place of its error and nothing else. -/
theorem applySymbol_map (f : Span → Span) (symbol : String) (span : Span) (a b : Decimal) :
    applySymbol settings symbol (f span) a b =
      (applySymbol settings symbol span a b).mapError (EvalError.mapSpan f) := by
  rw [applySymbol, applySymbol]
  cases Operator.ofSymbol? symbol with
  | none => rfl
  | some operator =>
    simp only
    cases operator.operation.run settings a b <;> rfl

/-- **Spans do not count for values**, and errors take theirs from the nodes. -/
theorem value_mapSpans (f : Span → Span) (e : Expr) :
    (e.mapSpans f).value settings = (e.value settings).mapError (EvalError.mapSpan f) := by
  induction e with
  | missing | number => rfl
  | group inner span ih => exact ih
  | unary symbol operand span ih =>
    rw [mapSpans, value, value, ih]
    cases operand.value settings <;> rfl
  | binary symbol left right span ihl ihr =>
    rw [mapSpans, value, value, ihl, ihr]
    cases left.value settings with
    | error err => rfl
    | ok a =>
      cases right.value settings with
      | error err => rfl
      | ok b => exact applySymbol_map f symbol span a b

/-! ### Failures of texts -/

/-- A node reported as an undefined operation is an operator between operands with values. -/
theorem Fails.exists_of_undefined {node : Expr} {error : EvalError} (h : Fails settings node error)
    {source : String} {report : Report} (hreport : error.report? source = some report)
    {reason : Reason} (hkind : report.kind = .undefined reason) :
    ∃ symbol left right span fault, node = binary symbol left right span ∧
      error = .failed fault span ∧ fault.reason? = some reason ∧
        report = ⟨.undefined reason, fault.message, span, source⟩ ∧
          ∀ operand ∈ [left, right], ∃ v, operand.value settings = .ok v := by
  cases h with
  | missing =>
    cases hreport
    cases hkind
  | unsupported =>
    cases hreport
    cases hkind
  | @failed symbol operator left right span a b fault ha hb =>
    have hfault : fault.reason? = some reason ∧
        report = ⟨.undefined reason, fault.message, span, source⟩ := by
      cases fault <;> cases hreport <;> cases hkind <;> exact ⟨rfl, rfl⟩
    exact ⟨symbol, left, right, span, fault, rfl, rfl, hfault.1, hfault.2,
      List.forall_mem_cons.2 ⟨⟨a, ha⟩, List.forall_mem_singleton.2 ⟨b, hb⟩⟩⟩

/-- The report of a fault with a reason. -/
theorem report?_failed {fault : Fault} {reason : Reason} (h : fault.reason? = some reason)
    (span : Span) (source : String) : (EvalError.failed fault span).report? source =
      some ⟨.undefined reason, fault.message, span, source⟩ := by
  cases fault <;> cases h <;> rfl

/-- What a text was read as is evaluated if it has a value. -/
theorem exists_evaluate_of_ofText {text : String} {e : Expr} (hread : ofText text = .ok e)
    {v : Decimal} (h : e.value settings = .ok v) : ∃ steps, e.evaluate settings = .ok (v, steps) :=
  let ⟨_, _, _, hlevels⟩ := ofText_eq_ok_iff.1 hread
  exists_evaluate hlevels h

/-- **The excerpt of a failure fails in the same way.** Where a text was read and its evaluation is
reported as an undefined operation, the report is about a part of that text. That part alone is read
as an operator between two operands; its evaluation is reported for the same reason, with the same
message, at the whole of it; and each operand, read alone, is evaluated to a value. -/
theorem evaluate_excerpt {source : String} {e : Expr} (hread : ofText source = .ok e)
    {error : EvalError} (h : e.evaluate settings = .error error) {report : Report}
    (hreport : error.report? source = some report) {reason : Reason}
    (hkind : report.kind = .undefined reason) :
    report.source = source ∧
      (0 ≤ report.span.start ∧ report.span.start < report.span.stop ∧
        report.span.stop ≤ source.length) ∧
      ∃ excerpt whole, excerpt = report.span.excerpt source ∧
        whole = (⟨0, report.span.stop - report.span.start⟩ : Span) ∧
        whole.stop = excerpt.length ∧
        ∃ symbol left right again, ofText excerpt = .ok (binary symbol left right whole) ∧
          (binary symbol left right whole).evaluate settings = .error again ∧
          again.report? excerpt = some ⟨.undefined reason, report.message, whole, excerpt⟩ ∧
          ∀ operand ∈ [left, right], ∃ read v steps,
            ofText (operand.span.excerpt excerpt) = .ok read ∧
              read.evaluate settings = .ok (v, steps) := by
  obtain ⟨-, -, -, hlevels⟩ := ofText_eq_ok_iff.1 hread
  obtain ⟨node, hfirst⟩ := (evaluate_eq_error_iff hlevels).1 h
  obtain ⟨hbounds, hexcerpt⟩ := ofText_node hread hfirst.mem_nodes
  obtain ⟨-, -, -, -, hfails⟩ := hfirst
  have hvalue := hfails.value_eq
  obtain ⟨symbol, left, right, span, fault, rfl, rfl, hreason, rfl, hoperands⟩ :=
    hfails.exists_of_undefined hreport hkind
  have hmove : span.move (-span.start) = ⟨0, span.stop - span.start⟩ := by
    rw [Span.move, Int.add_right_neg, Int.sub_eq_add_neg]
  -- The node at the start of the excerpt, which is what the excerpt is read as.
  have hwhole : (binary symbol left right span).move (-span.start) =
      binary symbol (left.move (-span.start)) (right.move (-span.start))
        ⟨0, span.stop - span.start⟩ := by
    rw [← hmove]
    rfl
  have hexcerpt : ofText (span.excerpt source) = .ok _ := hexcerpt
  rw [show (binary symbol left right span).span = span from rfl, hwhole] at hexcerpt
  obtain ⟨-, -, -, hlevels⟩ := ofText_eq_ok_iff.1 hexcerpt
  refine ⟨rfl, hbounds, _, _, rfl, rfl,
    (Span.length_excerpt hbounds.1 hbounds.2.1 hbounds.2.2).symm, symbol, _, _,
    .failed fault ⟨0, span.stop - span.start⟩, hexcerpt, ?_, report?_failed hreason _ _,
    fun operand hoperand => ?_⟩
  · rw [evaluate_eq_error_iff hlevels, ← value_eq_error_iff, ← hwhole, move, value_mapSpans, hvalue,
      ← hmove]
    rfl
  · obtain ⟨d, hd, rfl⟩ : ∃ d ∈ [left, right], d.move (-span.start) = operand :=
      List.mem_map.1 (show operand ∈ [left, right].map (move (-span.start)) from hoperand)
    obtain ⟨-, hread⟩ := ofText_node hexcerpt (mem_nodes_of_mem_children hoperand)
    obtain ⟨v, hv⟩ := hoperands d hd
    have hvalue : ((d.move (-span.start)).move (-(d.move (-span.start)).span.start)).value
        settings = .ok v := by
      rw [move, value_mapSpans, move, value_mapSpans, hv]
      rfl
    obtain ⟨steps, hsteps⟩ := exists_evaluate_of_ofText hread hvalue
    exact ⟨_, v, steps, hread, hsteps⟩

/-- The remainder in `1 + (2 % 0) / 0`, which fails before the division around it. -/
theorem evaluate_excerpt_remainder :
    let remainder := binary "%" (number ⟨false, 2, 0⟩ "2" ⟨5, 6⟩) (number .zero "0" ⟨9, 10⟩) ⟨5, 10⟩
    let e := binary "+" (number .one "1" ⟨0, 1⟩)
      (binary "/" (group remainder ⟨4, 11⟩) (number .zero "0" ⟨14, 15⟩) ⟨4, 15⟩) ⟨0, 15⟩
    let report : Report :=
      ⟨.undefined .divisionByZero, "division by zero", ⟨5, 10⟩, "1 + (2 % 0) / 0"⟩
    ofText "1 + (2 % 0) / 0" = .ok e ∧
      e.evaluate {} = .error (.failed .divisionByZero ⟨5, 10⟩) ∧
      (EvalError.failed .divisionByZero ⟨5, 10⟩).report? "1 + (2 % 0) / 0" = some report ∧
      report.kind = .undefined .divisionByZero ∧
      ∃ symbol left right again, ofText "2 % 0" = .ok (binary symbol left right ⟨0, 5⟩) ∧
        (binary symbol left right ⟨0, 5⟩).evaluate {} = .error again ∧
        again.report? "2 % 0" =
          some ⟨.undefined .divisionByZero, "division by zero", ⟨0, 5⟩, "2 % 0"⟩ := by
  intro remainder e report
  have hread : ofText "1 + (2 % 0) / 0" = .ok e := by decide +kernel
  have hvalue : e.evaluate {} = .error (.failed .divisionByZero ⟨5, 10⟩) := by decide +kernel
  have hreport : (EvalError.failed .divisionByZero ⟨5, 10⟩).report? "1 + (2 % 0) / 0" =
      some report := rfl
  refine ⟨hread, hvalue, hreport, rfl, ?_⟩
  obtain ⟨-, -, excerpt, whole, hexcerpt, rfl, -, symbol, left, right, again, hagain, herror,
    hreported, -⟩ := evaluate_excerpt hread hvalue hreport rfl
  rw [show report.span.excerpt "1 + (2 % 0) / 0" = "2 % 0" by decide +kernel] at hexcerpt
  subst hexcerpt
  exact ⟨symbol, left, right, again, hagain, herror, hreported⟩

end Expr
end Reckoner
