/-
# No positive exponents

The numbers of a text are explicit, and so is what is computed from explicit decimals. So no run of
an evaluation or a summary comes upon a positive exponent (`runs_writtenOut`): not in a number, not
in the value of a node, whether or not the run fails behind it, and not in a step, a term or a
total. All of these are written out, and the quotients and the powers by negative numbers among them
are positional.
-/

import Reckoner.Proofs.Decimal.Notation
import Reckoner.Proofs.Expr.Exactness

namespace Reckoner

/-- The values that went into a step, and the one that came out. -/
def Step.values : Step → List Decimal
  | unary _ _ _ operand result => [operand, result]
  | binary _ _ _ _ left right result => [left, right, result]

/-- Whether the value and the total of a row are written out. -/
structure TermRow.WrittenOut (row : TermRow) : Prop where
  value : row.value.WrittenOut
  total : row.total.WrittenOut

namespace Expr

variable {settings : Settings}

variable (settings) in
/-- Whether all that comes up in evaluating a tree is written out, and quotients are positional: its
numbers, the values of its nodes, and, if the run comes to an end, the values in all steps. -/
structure WrittenOut (e : Expr) : Prop where
  numbers : ∀ x ∈ e.numbers, x.WrittenOut
  nodes : ∀ node ∈ e.nodes, ∀ v, node.value settings = .ok v →
    v.WrittenOut ∧ (¬InFragment settings node → v.Positional)
  run : ∀ v steps, e.evaluate settings = .ok (v, steps) → v.WrittenOut ∧
    ∀ step ∈ steps, (∀ x ∈ step.values, x.WrittenOut) ∧
      (¬InFragment settings step.node → step.result.Positional)

/-! ### Evaluations -/

/-- The values in a step are those of nodes. -/
theorem exists_value_of_mem_values {step : Step} (h : step.Records settings) {x : Decimal}
    (hx : x ∈ step.values) : ∃ node ∈ step.node.nodes, node.value settings = .ok x := by
  cases step with
  | unary symbol e span operand result =>
    rcases List.mem_pair.1 hx with rfl | rfl
    · exact ⟨e, mem_nodes_of_mem_children (List.mem_singleton_self _), h.1⟩
    · exact ⟨_, self_mem_nodes _, h.2⟩
  | binary symbol left right span a b result =>
    obtain ⟨ha, hb, hresult⟩ := h
    rcases List.mem_cons.1 hx with rfl | hx
    · exact ⟨left, mem_nodes_of_mem_children (List.mem_cons_self ..), ha⟩
    · rcases List.mem_pair.1 hx with rfl | rfl
      · exact ⟨right, mem_nodes_of_mem_children (List.mem_pair.2 (.inr rfl)), hb⟩
      · exact ⟨_, self_mem_nodes _, hresult⟩

/-- **Quotients, and powers by negative numbers, have positional values.** -/
theorem positional_of_value {node : Expr} {v : Decimal} (h : node.value settings = .ok v)
    (hquotient : ¬InFragment settings node) : v.Positional := by
  cases node with
  | binary symbol left right span =>
    obtain ⟨a, b, operator, -, hb, hoperator, hrun⟩ := value_binary_eq_ok h
    refine Decimal.positional_of_run hrun ?_
    by_contra hnone
    obtain ⟨hdivide, hpower⟩ := not_or.1 hnone
    refine hquotient fun operator' hoperator' => ?_
    obtain rfl := Option.some.inj (hoperator.symm.trans hoperator')
    refine ⟨hdivide, fun hop b' hb' => not_lt.1 fun hneg => hpower ⟨hop, ?_⟩⟩
    rwa [Except.ok.inj (hb.symm.trans hb')]
  | _ => exact absurd trivial hquotient

/-- **A tree of explicit numbers is written out.** -/
theorem writtenOut {e : Expr} (hnumbers : ∀ x ∈ e.numbers, x.Explicit) :
    e.WrittenOut settings := by
  have hnodes : ∀ node ∈ e.nodes, ∀ v, node.value settings = .ok v → v.WrittenOut :=
    fun node hnode v hv => (explicit_of_value
      (fun x hx => hnumbers x (numbers_subset_of_mem_nodes hnode hx)) hv).writtenOut
  refine ⟨fun x hx => (hnumbers x hx).writtenOut,
    fun node hnode v hv => ⟨hnodes node hnode v hv, positional_of_value hv⟩, fun v steps h => ?_⟩
  obtain ⟨-, hvalue, hoperations, hrecords⟩ := evaluate_eq_ok h
  refine ⟨hnodes e (self_mem_nodes e) v hvalue, fun step hstep =>
    ⟨fun x hx => ?_, positional_of_value (hrecords step hstep).value_node⟩⟩
  have hnode : step.node ∈ e.nodes :=
    operations_subset_nodes e (hoperations ▸ List.mem_map_of_mem hstep)
  obtain ⟨node, hmem, hx⟩ := exists_value_of_mem_values (hrecords step hstep) hx
  exact (explicit_of_value (fun y hy => hnumbers y
    (numbers_subset_of_mem_nodes hnode (numbers_subset_of_mem_nodes hmem hy))) hx).writtenOut

/-! ### Summaries -/

/-- No total of explicit ones has a positive exponent, nor has the zero that totals start from. -/
theorem exponent_lastTotal_nonpos {rows : List TermRow} (h : ∀ row ∈ rows, row.total.Explicit) :
    (lastTotal rows).exponent ≤ 0 := by
  cases rows with
  | nil => exact le_rfl
  | cons row rows => exact (h row (List.mem_cons_self ..)).exponent_le

/-- **Rows of explicit terms are explicit.** -/
theorem explicit_of_addRow {done rows : List TermRow} {term : Expr}
    (hterm : ∀ x ∈ term.numbers, x.Explicit)
    (hdone : ∀ row ∈ done, row.value.Explicit ∧ row.total.Explicit)
    {values texts : ℕ} (h : addRow settings values texts done term = .ok rows) :
    ∀ row ∈ rows, row.value.Explicit ∧ row.total.Explicit := by
  obtain ⟨row, rfl, rfl, hrow, htotal⟩ := addRow_eq_ok h
  refine List.forall_mem_cons.2 ⟨⟨explicit_of_value hterm hrow.value, ?_⟩, hdone⟩
  exact Decimal.explicit_of_add htotal
    (exponent_lastTotal_nonpos fun row hrow => (hdone row hrow).2)

/-- Rows of terms with explicit numbers have explicit values and totals. -/
theorem explicit_of_foldlM {terms : List Expr} {done rows : List TermRow}
    (hterms : ∀ term ∈ terms, ∀ x ∈ term.numbers, x.Explicit)
    (hdone : ∀ row ∈ done, row.value.Explicit ∧ row.total.Explicit)
    {values texts : ℕ} (h : terms.foldlM (addRow settings values texts) done = .ok rows) :
    ∀ row ∈ rows, row.value.Explicit ∧ row.total.Explicit := by
  induction terms generalizing done with
  | nil =>
    cases h
    exact hdone
  | cons term terms ih =>
    rw [List.foldlM_cons] at h
    obtain ⟨next, hnext, hrest⟩ := bind_eq_ok_iff.1 h
    obtain ⟨hterm, hterms⟩ := List.forall_mem_cons.1 hterms
    exact ih hterms (explicit_of_addRow hterm hdone hnext) hrest

/-- **No run of a text comes upon a positive exponent.** All values in a run of its evaluation, and
of that of each of its terms, are written out, and so are those of the rows of its summary, also of
one that fails behind them. -/
theorem runs_writtenOut {source : String} {e : Expr} (hread : ofText source = .ok e)
    (settings : Settings) :
    e.WrittenOut settings ∧ ∃ terms, e.terms = .ok terms ∧
      (∀ term ∈ terms, term.WrittenOut settings) ∧
      (∀ begun rows, begun <+: terms →
        begun.foldlM (addRow settings nestingLimit printingLimit) [] =
        .ok rows →
        ∀ row ∈ rows, row.WrittenOut) ∧
      ∀ rows, e.summarize settings = .ok rows → ∀ row ∈ rows, row.WrittenOut := by
  obtain ⟨tokens, -, hderives, -⟩ := ofText_eq_ok_iff.1 hread
  have hnumbers := explicit_of_ofText hread
  have hterms := terms_eq hderives.wellShaped
  generalize hsigned : (e.summands false).map signedTerm = terms at hterms
  have hexplicit : ∀ term ∈ terms, ∀ x ∈ term.numbers, x.Explicit := by
    rw [← hsigned]
    refine List.forall_mem_map.2 fun p hp x hx => hnumbers x ?_
    rw [numbers_signedTerm] at hx
    exact numbers_subset_of_mem_summands hp hx
  have hrows : ∀ begun rows, begun <+: terms →
      begun.foldlM (addRow settings nestingLimit printingLimit) [] =
        .ok rows →
      ∀ row ∈ rows, row.WrittenOut := by
    intro begun rows hbegun hfold row hrow
    obtain ⟨hvalue, htotal⟩ := explicit_of_foldlM
      (fun term hterm => hexplicit term (hbegun.subset hterm)) (List.forall_mem_nil _) hfold row
      hrow
    exact ⟨hvalue.writtenOut, htotal.writtenOut⟩
  refine ⟨writtenOut hnumbers, terms, hterms, fun term hterm => writtenOut (hexplicit term hterm),
    hrows, fun rows hsummary row hrow => ?_⟩
  obtain ⟨terms', hterms', hsummary⟩ := bind_eq_ok_iff.1 hsummary
  obtain ⟨reversed, hfold, hreturn⟩ := bind_eq_ok_iff.1 hsummary
  obtain rfl := Except.ok.inj (hterms.symm.trans hterms')
  cases hreturn
  exact hrows terms reversed (List.prefix_refl _) hfold row (List.mem_reverse.1 hrow)

/-- A hundred is a quotient in full, a quarter a power without zeros at its end. -/
theorem runs_writtenOut_quotients :
    let hundred : Decimal := ⟨false, 100, 0⟩
    let quarter : Decimal := ⟨false, 25, -2⟩
    let difference : Decimal := ⟨false, 9975, -2⟩
    let quotient :=
      binary "/" (number ⟨false, 1000, 0⟩ "1000" ⟨0, 4⟩) (number ⟨false, 10, 0⟩ "10" ⟨7, 9⟩) ⟨0, 9⟩
    let minusOne := unary "-" (number .one "1" ⟨17, 18⟩) ⟨16, 18⟩
    let power := binary "^" (number ⟨false, 4, 0⟩ "4" ⟨12, 13⟩) minusOne ⟨12, 18⟩
    let e := binary "-" quotient power ⟨0, 18⟩
    ofText "1000 / 10 - 4 ^ -1" = .ok e ∧ quotient.value {} = .ok hundred ∧
      hundred.scientific = "100" ∧ power.value {} = .ok quarter ∧ quarter.Positional ∧
      (∃ steps, e.evaluate {} = .ok (difference, steps) ∧
        ∀ step ∈ steps, ∀ x ∈ step.values, x.WrittenOut) ∧
      ∃ rows, e.summarize {} = .ok rows ∧ rows.map TermRow.total = [hundred, difference] ∧
        ∀ row ∈ rows, row.WrittenOut := by
  intro hundred quarter difference quotient minusOne power e
  have hread : ofText "1000 / 10 - 4 ^ -1" = .ok e := by decide +kernel
  have hquotient : quotient.value {} = .ok hundred := by decide +kernel
  have hpower : power.value {} = .ok quarter := by decide +kernel
  have hvalue : e.value {} = .ok difference := by decide +kernel
  obtain ⟨steps, hsteps⟩ := exists_evaluate (show e.nesting ≤ nestingLimit by decide) hvalue
  obtain ⟨rows, hsummary, htotals⟩ := bind_eq_ok_iff.1
    (show (e.summarize {} >>= fun rows => .ok (rows.map TermRow.total)) =
      .ok [hundred, difference] by decide +kernel)
  have hdivides : ¬InFragment {} quotient := fun h => (h ⟨3, .left, .divide⟩ rfl).1 rfl
  have hreciprocal : ¬InFragment {} power := fun h =>
    absurd ((h ⟨4, .right, .power⟩ rfl).2 rfl ⟨true, 1, 0⟩ rfl)
      (by norm_num [Decimal.toRat, Decimal.signed])
  obtain ⟨hwritten, _, -, -, -, hrows⟩ := runs_writtenOut hread {}
  obtain ⟨-, hpositional⟩ :=
    hwritten.nodes quotient (mem_nodes_of_mem_children (List.mem_cons_self ..)) _ hquotient
  obtain ⟨-, hpositional'⟩ := hwritten.nodes power
    (mem_nodes_of_mem_children (List.mem_pair.2 (.inr rfl))) _ hpower
  have htext := (hpositional hdivides).integral 100
    ((Decimal.toRat_natural 100).trans (by norm_num))
  exact ⟨hread, hquotient, htext.trans (by decide), hpower, hpositional' hreciprocal,
    ⟨steps, hsteps, fun step hstep => ((hwritten.run _ _ hsteps).2 step hstep).1⟩,
    rows, hsummary, Except.ok.inj htotals, hrows rows hsummary⟩

end Expr
end Reckoner
