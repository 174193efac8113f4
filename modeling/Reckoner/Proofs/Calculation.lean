/-
# What ends a calculation

A calculation ends with a template, a text that is not read, or a tree without a value. Once the
value is found, only the levels can run out: printing a step (`printAll_error`) and evaluating or
printing a term (`summarize_error`) fail in no other way. Where division knows how to round, each of
these ends has a report (`run_error`). The kind of the report says which of the two came: that the
text cannot be read, or that its value cannot be found.
-/

import Reckoner.Calculation
import Reckoner.Proofs.Expr.FailureExcerpt
import Reckoner.Proofs.Expr.Progress
import Reckoner.Proofs.Expr.RunningTotals

namespace Reckoner

/-! ### Faults of arithmetic -/

namespace Decimal

/-- Bringing a result into the range needs no rounding mode of the settings. -/
theorem finish_ne_unknownRounding (negative : Bool) (n : ℕ) (e : ℤ) :
    finish negative n e ≠ .error .unknownRounding := by
  intro h
  rw [finish] at h
  split_ifs at h <;> cases h

/-- A sum needs no rounding mode of the settings. -/
theorem add_ne_unknownRounding (a b : Decimal) : a.add b ≠ .error .unknownRounding := by
  intro h
  simp only [add] at h
  split_ifs at h <;> try cases h
  · exact finish_ne_unknownRounding _ _ _ h
  · exact finish_ne_unknownRounding _ _ _ h

/-- A quotient knows how to round if the settings have a mode. -/
theorem divide_ne_unknownRounding {settings : Settings} (hrounding : settings.rounding ≠ none)
    (a b : Decimal) : divide settings a b ≠ .error .unknownRounding := by
  intro h
  simp only [divide] at h
  split_ifs at h <;> try cases h
  split at h
  · rename_i hnone
    exact hrounding hnone
  · cases h

/-- A whole power needs no rounding mode of the settings. -/
theorem wholePower_ne_unknownRounding (x : Decimal) (n : ℕ) :
    wholePower x n ≠ .error .unknownRounding := by
  intro h
  simp only [wholePower, naturalPower] at h
  split_ifs at h <;> try cases h
  · exact finish_ne_unknownRounding _ _ _ h
  · exact finish_ne_unknownRounding _ _ _ h

/-- **Only a setting without a rounding mode** leaves an operation not knowing how to round. -/
theorem run_ne_unknownRounding {settings : Settings} (hrounding : settings.rounding ≠ none)
    (operation : Operation) (a b : Decimal) :
    operation.run settings a b ≠ .error .unknownRounding := by
  intro h
  cases operation with
  | add => exact add_ne_unknownRounding _ _ h
  | subtract => exact add_ne_unknownRounding _ _ h
  | multiply => exact finish_ne_unknownRounding _ _ _ h
  | divide => exact divide_ne_unknownRounding hrounding _ _ h
  | modulo =>
    simp only [Operation.run, modulo] at h
    split_ifs at h <;> cases h
  | power =>
    simp only [Operation.run, power] at h
    split_ifs at h <;> try cases h
    all_goals
      obtain h | ⟨p, -, h⟩ := bind_eq_error_iff.1 h
      · exact wholePower_ne_unknownRounding _ _ h
    · exact divide_ne_unknownRounding hrounding _ _ h
    · cases h

end Decimal

/-- Whether a summary ended because a term has too many levels. -/
def SummaryError.IsDepth (error : SummaryError) : Prop :=
  ∃ span, error = .term (.tooDeep span) ∨ error = .text (.tooDeep span)

namespace Expr

variable {settings : Settings} {source : String} {e : Expr} {levels values texts : ℕ}

/-- **A text that is not read has a report**, and that is an error of syntax. -/
theorem exists_report_of_ofText {error : TextError} (h : ofText source levels = .error error) :
    ∃ report, error.report? source = some report ∧ report.kind = .syntactic := by
  obtain h | ⟨tokens, hscan, h⟩ := bind_eq_error_iff.1 h
  · obtain ⟨error, -, rfl⟩ := mapError_eq_error_iff.1 h
    exact ⟨_, rfl, rfl⟩
  · obtain ⟨error, hparse, rfl⟩ := mapError_eq_error_iff.1 h
    obtain ⟨read, -, rfl⟩ := Token.scan_eq_ok_iff.1 (mapError_eq_ok_iff.1 hscan)
    cases error with
    | outOfTokens => exact absurd hparse (ofTokens_ne_outOfTokens read rfl levels)
    | _ => exact ⟨_, rfl, rfl⟩

/-- **A tree without a value has a report** of an evaluation, in whatever text it is. -/
theorem exists_report_of_evaluate (hrounding : settings.rounding ≠ none) {error : EvalError}
    (h : e.evaluate settings levels = .error error) (source : String) :
    ∃ report, error.report? source = some report ∧ report.kind.isEvaluation := by
  obtain h | rfl := (evaluate_same settings le_rfl levels).eq_error h
  · obtain ⟨node, _, _, _, _, hfails⟩ := (evaluate_eq_error_iff le_rfl).1 h
    obtain ⟨kind, message, hreport, hkind⟩ | rfl := hfails.report?_eq source
    · exact ⟨_, hreport, hkind⟩
    · cases hfails with
      | failed _ _ _ hrun => exact absurd hrun (Decimal.run_ne_unknownRounding hrounding _ _ _)
  · exact ⟨_, rfl, rfl⟩

/-! ### Running out of levels -/

/-- A sign's operand that was evaluated has a text, unless it takes too many levels. -/
theorem printOperand_error (hshape : e.wellShaped) {error : PrintError}
    (h : e.printOperand levels = .error error) : error = .tooDeep e.span := by
  obtain ⟨text, htext⟩ := exists_plainPrint hshape
  obtain h | ⟨_, -, h⟩ := bind_eq_error_iff.1 h
  · obtain h | herror := (print_same e levels).eq_error h
    · cases htext.symm.trans h
    · exact herror
  · cases e <;> cases h

/-- The steps to a value have texts, unless one takes too many levels. -/
theorem printAll_error {reading evaluation : ℕ} (hread : ofText source reading = .ok e)
    {v : Decimal} {steps : List Step} (h : e.evaluate settings evaluation = .ok (v, steps))
    {error : PrintError} (herror : Step.printAll steps levels = .error error) :
    ∃ span, error = .tooDeep span := by
  obtain ⟨tokens, -, hderives, -⟩ := ofText_eq_ok_iff.1 hread
  obtain ⟨-, -, hnodes, -⟩ := evaluate_eq_ok h
  obtain ⟨before, step, after, rfl, -, hstep⟩ := mapM_eq_error_iff.1 herror
  cases step with
  | binary => cases hstep
  | unary symbol operand span a result =>
    have hmem : unary symbol operand span ∈ e.nodes := by
      refine operations_subset_nodes e (hnodes ▸ ?_)
      exact List.mem_map_of_mem (f := Step.node) List.mem_append_cons_self
    obtain ⟨_, used, _, -, hused⟩ := hderives.exists_of_mem_nodes hmem
    have hshape := (Bool.and_eq_true_iff.1 hused.wellShaped).2
    obtain hstep | ⟨_, -, hstep⟩ := bind_eq_error_iff.1 hstep
    · exact ⟨_, printOperand_error hshape hstep⟩
    · cases hstep

/-- A row within limits is the row of the term, unless the term has too many levels. -/
theorem addRow_same {term : Expr} {enough : ℕ} (h : term.nesting ≤ enough) (values texts : ℕ)
    (done : List TermRow) : SameUnless SummaryError.IsDepth (addRow settings values texts done term)
      (addRow settings enough (2 * enough) done term) := by
  have hvalue := (evaluate_same settings h values).mapError (q := SummaryError.IsDepth)
    (f := SummaryError.term) fun _ herror => ⟨_, .inl (congrArg _ herror)⟩
  have htext := ((print_same term texts).mapError (q := SummaryError.IsDepth)
    (f := SummaryError.text) fun _ herror => ⟨_, .inr (congrArg _ herror)⟩)
  rw [← print_eq_of_le (Nat.mul_le_mul_left 2 h)] at htext
  exact hvalue.bind fun r => (SameUnless.refl _ _).bind fun total =>
    htext.bind fun text => .refl _ _

/-- A tree with a value has a summary, unless a term has too many levels. -/
theorem summarize_error {reading evaluation : ℕ} (hread : ofText source reading = .ok e)
    {v : Decimal} {steps : List Step} (h : e.evaluate settings evaluation = .ok (v, steps))
    {error : SummaryError} (herror : e.summarize settings values texts = .error error) :
    error.IsDepth := by
  obtain ⟨tokens, -, hderives, -⟩ := ofText_eq_ok_iff.1 hread
  have hshape := hderives.wellShaped
  obtain ⟨-, hvalue, -, -⟩ := evaluate_eq_ok h
  obtain ⟨rows, hfold, -⟩ :=
    exists_totals hshape (Nat.le_succ e.nesting) (explicit_of_ofText hread) hvalue
  have hterms : ∀ term ∈ (e.summands false).map signedTerm, term.nesting ≤ e.nesting + 1 :=
    List.forall_mem_map.2 fun p hp =>
      (nesting_signedTerm_le p).trans (Nat.succ_le_succ (nesting_le_of_mem_summands hp))
  have hsame : SameUnless SummaryError.IsDepth
      (((e.summands false).map signedTerm).foldlM (addRow settings values texts) [])
      (((e.summands false).map signedTerm).foldlM
        (addRow settings (e.nesting + 1) (2 * (e.nesting + 1))) []) :=
    SameUnless.foldlM (fun term hterm => addRow_same (hterms term hterm) values texts) []
  rw [summarize_eq hshape] at herror
  obtain herror | ⟨_, -, herror⟩ := bind_eq_error_iff.1 herror
  · obtain herror | hdepth := hsame.eq_error herror
    · cases hfold.symm.trans herror
    · exact hdepth
  · cases herror

end Expr

/-! ### Calculations -/

/-- Whether an error is that a text cannot be read, and not that its value cannot be found. -/
def CalculationError.isReading : CalculationError → Bool
  | template _ | text .. => true
  | evaluation .. | step _ | summary _ => false

namespace Calculation

variable {limits : Limits} {settings : Settings} {bindings : Bindings} {text : String}

/-- Where a calculation ends that fails. Each stage presupposes that those before it went well. -/
inductive Fails (limits : Limits) (settings : Settings) (bindings : Bindings) (text : String) :
    CalculationError → Prop
  | template {e : TemplateError} (hfill : Template.fill bindings text = .error e) :
      Fails limits settings bindings text (.template e)
  | text {filled : String} {e : Expr.TextError} (hfill : Template.fill bindings text = .ok filled)
      (hread : Expr.ofText (Glyph.fold filled) limits.reading = .error e) :
      Fails limits settings bindings text (.text e (Glyph.fold filled))
  | evaluation {filled : String} {tree : Expr} {e : EvalError}
      (hfill : Template.fill bindings text = .ok filled)
      (hread : Expr.ofText (Glyph.fold filled) limits.reading = .ok tree)
      (hvalue : tree.evaluate settings limits.evaluation = .error e) :
      Fails limits settings bindings text (.evaluation e (Glyph.fold filled))
  /-- A step takes too many levels. -/
  | step {filled : String} {tree : Expr} {value : Decimal} {steps : List Step} {span : Span}
      (hfill : Template.fill bindings text = .ok filled)
      (hread : Expr.ofText (Glyph.fold filled) limits.reading = .ok tree)
      (hvalue : tree.evaluate settings limits.evaluation = .ok (value, steps))
      (hsteps : Step.printAll steps limits.steps = .error (.tooDeep span)) :
      Fails limits settings bindings text (.step (.tooDeep span))
  /-- A term has too many levels. -/
  | summary {filled : String} {tree : Expr} {value : Decimal} {steps : List Step}
      {texts : List String} {e : SummaryError} (hfill : Template.fill bindings text = .ok filled)
      (hread : Expr.ofText (Glyph.fold filled) limits.reading = .ok tree)
      (hvalue : tree.evaluate settings limits.evaluation = .ok (value, steps))
      (hsteps : Step.printAll steps limits.steps = .ok texts)
      (hrows : tree.summarize settings limits.termValues limits.termTexts = .error e)
      (hdepth : e.IsDepth) : Fails limits settings bindings text (.summary e)

/-- **A calculation fails where it ends.** -/
theorem run_eq_error_iff {e : CalculationError} :
    run limits settings bindings text = .error e ↔ Fails limits settings bindings text e := by
  constructor
  · intro h
    obtain h | ⟨filled, hfill, h⟩ := bind_eq_error_iff.1 h
    · obtain ⟨error, herror, rfl⟩ := mapError_eq_error_iff.1 h
      exact .template herror
    have hfill := mapError_eq_ok_iff.1 hfill
    obtain h | ⟨tree, hread, h⟩ := bind_eq_error_iff.1 h
    · obtain ⟨error, herror, rfl⟩ := mapError_eq_error_iff.1 h
      exact .text hfill herror
    have hread := mapError_eq_ok_iff.1 hread
    obtain h | ⟨⟨value, steps⟩, hvalue, h⟩ := bind_eq_error_iff.1 h
    · obtain ⟨error, herror, rfl⟩ := mapError_eq_error_iff.1 h
      exact .evaluation hfill hread herror
    have hvalue := mapError_eq_ok_iff.1 hvalue
    obtain h | ⟨texts, hsteps, h⟩ := bind_eq_error_iff.1 h
    · obtain ⟨error, herror, rfl⟩ := mapError_eq_error_iff.1 h
      obtain ⟨span, rfl⟩ := Expr.printAll_error hread hvalue herror
      exact .step hfill hread hvalue herror
    have hsteps := mapError_eq_ok_iff.1 hsteps
    obtain h | ⟨rows, -, h⟩ := bind_eq_error_iff.1 h
    · obtain ⟨error, herror, rfl⟩ := mapError_eq_error_iff.1 h
      exact .summary hfill hread hvalue hsteps herror (Expr.summarize_error hread hvalue herror)
    · cases h
  · intro h
    cases h with
    | template hfill => simp only [run, hfill, Except.mapError, bind, Except.bind]
    | text hfill hread => simp only [run, hfill, hread, Except.mapError, bind, Except.bind]
    | evaluation hfill hread hvalue =>
      simp only [run, hfill, hread, hvalue, Except.mapError, bind, Except.bind]
    | step hfill hread hvalue hsteps =>
      simp only [run, hfill, hread, hvalue, hsteps, Except.mapError, bind, Except.bind]
    | summary hfill hread hvalue hsteps hrows =>
      simp only [run, hfill, hread, hvalue, hsteps, hrows, Except.mapError, bind, Except.bind]

/-- **A calculation that fails has a report.** Its kind tells whether the text was not read. -/
theorem run_error (hrounding : settings.rounding ≠ none) {e : CalculationError}
    (h : run limits settings bindings text = .error e) :
    ∃ report, e.report? = some report ∧
      (e.isReading ∧ (report.kind = .template ∨ report.kind = .syntactic) ∨
        e.isReading = false ∧ report.kind.isEvaluation) := by
  cases run_eq_error_iff.1 h with
  | template => exact ⟨_, rfl, .inl ⟨rfl, .inl rfl⟩⟩
  | text _ hread =>
    obtain ⟨report, hreport, hkind⟩ := Expr.exists_report_of_ofText hread
    exact ⟨report, hreport, .inl ⟨rfl, .inr hkind⟩⟩
  | evaluation _ _ hvalue =>
    obtain ⟨report, hreport, hkind⟩ := Expr.exists_report_of_evaluate hrounding hvalue _
    exact ⟨report, hreport, .inr ⟨rfl, hkind⟩⟩
  | step => exact ⟨_, rfl, .inr ⟨rfl, rfl⟩⟩
  | summary _ _ _ _ _ hdepth =>
    obtain ⟨span, rfl | rfl⟩ := hdepth <;> exact ⟨_, rfl, .inr ⟨rfl, rfl⟩⟩

end Calculation
end Reckoner
