/-
# The exact fragment

Without quotients and without powers by negative numbers, an expression has an exact value, which is
a rational number (`Expr.rational`). As long as the exact results in it are multiples of `10 ^
lowest`, nothing is rounded, and what is computed is that value (`evaluate_exact`). Powers of powers
can be finer, however; they may end in zero (`evaluate_exact_underflow`).
-/

import Reckoner.Proofs.Decimal.Exactness
import Reckoner.Proofs.Expr.FailureExcerpt
import Reckoner.Proofs.Expr.RunningTotals

namespace Reckoner

namespace Expr

variable {settings : Settings}

/-- The value of a tree in rational numbers. -/
def rational : Expr → Option ℚ
  | missing => none
  | number value _ _ => some value.toRat
  | group inner _ => inner.rational
  | unary symbol e _ => e.rational.map fun q => if symbol = "-" then -q else q
  | binary symbol left right _ => do
    let a ← left.rational
    let b ← right.rational
    let operator ← Operator.ofSymbol? symbol
    operator.operation.rational a b

variable (settings) in
/-- Whether a node is no quotient, and no power by a negative number. -/
def InFragment : Expr → Prop
  | binary symbol _ right _ => ∀ operator, Operator.ofSymbol? symbol = some operator →
    operator.operation ≠ .divide ∧
      (operator.operation = .power → ∀ b, right.value settings = .ok b → 0 ≤ b.toRat)
  | _ => True

/-- Whether the exact results in a tree are multiples of `10 ^ lowest`. -/
def Resolved (e : Expr) : Prop :=
  ∀ node ∈ e.operations, ∀ q, node.rational = some q → Decimal.Resolved q

/-- An operation has a rational value if its operands have and the operation has on them. -/
theorem rational_binary_eq_some_iff {symbol : String} {left right : Expr} {span : Span} {q : ℚ} :
    (binary symbol left right span).rational = some q ↔
      ∃ a b operator, left.rational = some a ∧ right.rational = some b ∧
        Operator.ofSymbol? symbol = some operator ∧ operator.operation.rational a b = some q := by
  simp only [rational, Option.bind_eq_bind, Option.bind_eq_some_iff]
  tauto

/-- **Values in the fragment are those in rational numbers**, where exact results are resolved. -/
theorem rational_of_value {e : Expr} (hnumbers : ∀ x ∈ e.numbers, x.Explicit)
    (hfragment : ∀ node ∈ e.operations, InFragment settings node) (hresolved : e.Resolved)
    {v : Decimal} (h : e.value settings = .ok v) : e.rational = some v.toRat := by
  induction e generalizing v with
  | missing => cases h
  | number value raw span =>
    cases h
    rfl
  | group inner span ih => exact ih hnumbers hfragment hresolved h
  | unary symbol e span ih =>
    obtain ⟨operand, hoperand, h⟩ := bind_eq_ok_iff.1 h
    cases h
    rw [rational, ih hnumbers (fun node hnode => hfragment node (List.mem_append_left _ hnode))
      (fun node hnode => hresolved node (List.mem_append_left _ hnode)) hoperand, applySign]
    split_ifs <;> simp
  | binary symbol left right span ihl ihr =>
    obtain ⟨a, b, operator, ha, hb, hoperator, hrun⟩ := value_binary_eq_ok h
    obtain ⟨hnumbersL, hnumbersR⟩ := List.forall_mem_append.1 hnumbers
    obtain ⟨hoperands, hself⟩ := List.forall_mem_append.1 hfragment
    obtain ⟨hfragmentL, hfragmentR⟩ := List.forall_mem_append.1 hoperands
    obtain ⟨hresolvedOperands, hresolvedSelf⟩ := List.forall_mem_append.1 hresolved
    obtain ⟨hresolvedL, hresolvedR⟩ := List.forall_mem_append.1 hresolvedOperands
    obtain ⟨hdivide, hpower⟩ := List.forall_mem_singleton.1 hself operator hoperator
    have hleft := ihl hnumbersL hfragmentL hresolvedL ha
    have hright := ihr hnumbersR hfragmentR hresolvedR hb
    have hrational := Operation.rational_run hrun (explicit_of_value hnumbersL ha)
      (explicit_of_value hnumbersR hb) hdivide (fun hop => hpower hop b hb) fun q hq =>
        List.forall_mem_singleton.1 hresolvedSelf q
          (rational_binary_eq_some_iff.2 ⟨_, _, operator, hleft, hright, hoperator, hq⟩)
    exact rational_binary_eq_some_iff.2 ⟨_, _, operator, hleft, hright, hoperator, hrational⟩

/-- An exact result that is a decimal in the range is resolved. -/
theorem resolved_node {node : Expr} {x : Decimal} (hx : Decimal.lowest ≤ x.exponent)
    (h : node.rational = some x.toRat) : ∀ q, node.rational = some q → Decimal.Resolved q :=
  fun _ hq => Option.some.inj (h.symm.trans hq) ▸ Decimal.resolved_toRat hx

/-! ### Operators and powers by literals -/

section

variable {left right : Expr} {span : Span}

/-- An operation that is neither a quotient nor a power is in the fragment. -/
theorem inFragment_of_ne {symbol : String} {operator : Operator}
    (h : Operator.ofSymbol? symbol = some operator) (hdivide : operator.operation ≠ .divide)
    (hpower : operator.operation ≠ .power) :
    InFragment settings (binary symbol left right span) := by
  intro operator' hoperator
  obtain rfl := Option.some.inj (h.symm.trans hoperator)
  exact ⟨hdivide, fun h => absurd h hpower⟩

variable {n : ℕ} {raw : String} {s : Span}

/-- So is a power by a literal. -/
theorem inFragment_power_literal :
    InFragment settings (binary "^" left (number ⟨false, n, 0⟩ raw s) span) := by
  intro operator hoperator
  obtain rfl : (⟨4, .right, .power⟩ : Operator) = operator := Option.some.inj hoperator
  refine ⟨by decide, fun _ b hb => ?_⟩
  rw [← Except.ok.inj hb, Decimal.toRat_natural]
  exact n.cast_nonneg

/-- A power by a literal is the power of the rational number. -/
theorem rational_power_literal {a : ℚ} (h : left.rational = some a) :
    (binary "^" left (number ⟨false, n, 0⟩ raw s) span).rational = some (a ^ n) := by
  refine rational_binary_eq_some_iff.2
    ⟨a, n, ⟨4, .right, .power⟩, h, congrArg some (Decimal.toRat_natural n), rfl, ?_⟩
  rw [Operation.rational, Nat.floor_natCast, if_pos rfl]

/-- Powers stay in the fragment, and exact ones are not zero if the base is not. -/
theorem exact_power_literal
    (h : (∀ node ∈ left.operations, InFragment settings node) ∧
      ∃ q, left.rational = some q ∧ q ≠ 0) :
    let e := binary "^" left (number ⟨false, n, 0⟩ raw s) span
    (∀ node ∈ e.operations, InFragment settings node) ∧ ∃ q, e.rational = some q ∧ q ≠ 0 := by
  obtain ⟨hfragment, q, hq, hne⟩ := h
  have hoperands : ∀ node ∈ left.operations ++ [], InFragment settings node := by
    rwa [List.append_nil]
  exact ⟨List.forall_mem_append.2
      ⟨hoperands, List.forall_mem_singleton.2 inFragment_power_literal⟩,
    q ^ n, rational_power_literal hq, pow_ne_zero n hne⟩

end

/-! ### Failures of remainders -/

/-- The numbers of a node are numbers of the tree. -/
theorem numbers_subset_of_mem_nodes {e node : Expr} (h : node ∈ e.nodes) :
    node.numbers ⊆ e.numbers := by
  induction e with
  | missing | number => rw [List.mem_singleton.1 h]; exact List.Subset.refl _
  | group inner span ih | unary symbol operand span ih =>
    rcases List.mem_cons.1 h with rfl | h
    · exact List.Subset.refl _
    · exact ih h
  | binary symbol left right span ihl ihr =>
    rcases List.mem_cons.1 h with rfl | h
    · exact List.Subset.refl _
    · rcases List.mem_append.1 h with h | h
      · exact List.subset_append_of_subset_left _ (ihl h)
      · exact List.subset_append_of_subset_right _ (ihr h)

/-- A remainder that fails for a division by zero has a zero on its right. -/
theorem FirstFailure.exists_zero {e left right : Expr} {span : Span}
    (h : FirstFailure settings e.postorder (binary "%" left right span)
      (.failed .divisionByZero span)) :
    ∃ b, right.value settings = .ok b ∧ b.toRat = 0 := by
  obtain ⟨-, -, -, -, hfails⟩ := h
  cases hfails with
  | @failed _ operator _ _ _ a b _ _ hb hoperator hrun =>
    obtain rfl : (⟨3, .left, .modulo⟩ : Operator) = operator := Option.some.inj hoperator
    exact ⟨b, hb, Decimal.modulo_eq_divisionByZero hrun⟩

/-- **The exact fragment is exact where it is resolved.** Of a text that was read, a value that was
computed without quotients and powers by negative numbers is the value in rational numbers, if all
exact results are multiples of `10 ^ lowest`. So it is with the right operand of a remainder that
fails, which is zero. -/
theorem evaluate_exact {source : String} {e : Expr} (hread : ofText source = .ok e) :
    (∀ {v steps}, e.evaluate settings = .ok (v, steps) →
      (∀ node ∈ e.operations, InFragment settings node) → e.Resolved →
        e.rational = some v.toRat) ∧
    ∀ {left right span}, FirstFailure settings e.postorder (binary "%" left right span)
        (.failed .divisionByZero span) →
      (∀ node ∈ right.operations, InFragment settings node) →
        e.evaluate settings = .error (.failed .divisionByZero span) ∧
          (right.Resolved → right.rational = some 0) := by
  have hnumbers := explicit_of_ofText hread
  refine ⟨fun {v steps} h hfragment hresolved => ?_, fun {left right span} h hfragment => ?_⟩
  · obtain ⟨-, hvalue, -⟩ := evaluate_eq_ok h
    exact rational_of_value hnumbers hfragment hresolved hvalue
  · obtain ⟨-, -, -, hlevels⟩ := ofText_eq_ok_iff.1 hread
    refine ⟨(evaluate_eq_error_iff hlevels).2 ⟨_, h⟩, fun hresolved => ?_⟩
    obtain ⟨b, hb, hzero⟩ := h.exists_zero
    have hnode := numbers_subset_of_mem_nodes h.mem_nodes
    rw [← hzero]
    exact rational_of_value (fun x hx => hnumbers x (hnode (List.mem_append_right _ hx))) hfragment
      hresolved hb

/-- The remainder of 7.5 by the square of 2, and a remainder by `2 - 2`. -/
theorem evaluate_exact_remainders :
    let two : Decimal := ⟨false, 2, 0⟩
    let square := binary "^" (number two "2" ⟨6, 7⟩) (number two "2" ⟨10, 11⟩) ⟨6, 11⟩
    let e := binary "%" (number ⟨false, 75, -1⟩ "7.5" ⟨0, 3⟩) square ⟨0, 11⟩
    let zero := binary "-" (number two "2" ⟨5, 6⟩) (number two "2" ⟨9, 10⟩) ⟨5, 10⟩
    let d := binary "%" (number ⟨false, 5, 0⟩ "5" ⟨0, 1⟩) (group zero ⟨4, 11⟩) ⟨0, 11⟩
    ofText "7.5 % 2 ^ 2" = .ok e ∧ ofText "5 % (2 - 2)" = .ok d ∧
      (∃ steps, e.evaluate {} = .ok (⟨false, 35, -1⟩, steps)) ∧ e.rational = some (7 / 2) ∧
      d.evaluate {} = .error (.failed .divisionByZero ⟨0, 11⟩) ∧ zero.rational = some 0 := by
  intro two square e zero d
  have hread : ofText "7.5 % 2 ^ 2" = .ok e := by decide +kernel
  have hread' : ofText "5 % (2 - 2)" = .ok d := by decide +kernel
  have hvalue : e.value {} = .ok ⟨false, 35, -1⟩ := by decide +kernel
  obtain ⟨steps, hsteps⟩ := exists_evaluate (show e.nesting ≤ nestingLimit by decide) hvalue
  have hliteral : ∀ s, (number two "2" s).rational = some 2 := fun _ =>
    congrArg some (Decimal.toRat_natural 2)
  have hfour : (⟨false, 4, 0⟩ : Decimal).toRat = 2 ^ 2 := by
    norm_num [Decimal.toRat, Decimal.signed]
  have hdividend : (⟨false, 75, -1⟩ : Decimal).toRat = 15 / 2 := by
    norm_num [Decimal.toRat, Decimal.signed]
  have hrest : (⟨false, 35, -1⟩ : Decimal).toRat = 7 / 2 := by
    norm_num [Decimal.toRat, Decimal.signed]
  -- The exact results.
  have hsquare : square.rational = some (2 ^ 2) :=
    rational_power_literal (hliteral _)
  have hremainder : e.rational = some (7 / 2) := by
    refine rational_binary_eq_some_iff.2
      ⟨15 / 2, 2 ^ 2, ⟨3, .left, .modulo⟩, congrArg some hdividend, hsquare, rfl, ?_⟩
    rw [Operation.rational, if_neg (by norm_num),
      remainder_eq (k := 1) (r := 7 / 2) (by norm_num) (by norm_num [abs_lt]) (by norm_num)]
  have hzero : zero.rational = some 0 :=
    rational_binary_eq_some_iff.2
      ⟨2, 2, ⟨2, .left, .subtract⟩, hliteral _, hliteral _, rfl, congrArg some (sub_self 2)⟩
  -- They are resolved.
  have hresolved : e.Resolved :=
    List.forall_mem_cons.2
      ⟨resolved_node (x := ⟨false, 4, 0⟩) (by decide) (by rw [hsquare, hfour]),
        List.forall_mem_singleton.2
          (resolved_node (x := ⟨false, 35, -1⟩) (by decide) (by rw [hremainder, hrest]))⟩
  have hresolved' : (group zero ⟨4, 11⟩).Resolved :=
    List.forall_mem_singleton.2
      (resolved_node (x := .zero) (by decide) (by rw [Decimal.toRat_zero]; exact hzero))
  -- The divisor has a value, by which there is no remainder.
  have hdivisor : (group zero ⟨4, 11⟩).value {} = .ok ⟨false, 0, 0⟩ := by decide
  have hfirst : FirstFailure {} d.postorder d (.failed .divisionByZero ⟨0, 11⟩) :=
    ⟨number ⟨false, 5, 0⟩ "5" ⟨0, 1⟩ :: (group zero ⟨4, 11⟩).postorder, [], rfl,
      List.forall_mem_cons.2 ⟨⟨_, rfl⟩, fun _ hx => exists_value_of_mem_postorder hdivisor hx⟩,
      .failed rfl hdivisor rfl rfl⟩
  obtain ⟨hexact, -⟩ := @evaluate_exact {} _ _ hread
  obtain ⟨-, hfail⟩ := @evaluate_exact {} _ _ hread'
  have hpower : InFragment {} square := inFragment_power_literal
  have hquotient := hexact hsteps (List.forall_mem_cons.2
    ⟨hpower, List.forall_mem_singleton.2 (inFragment_of_ne rfl (by decide) (by decide))⟩)
  obtain ⟨herror, hdivides⟩ := hfail hfirst (List.forall_mem_singleton.2
    (inFragment_of_ne rfl (by decide) (by decide)))
  exact ⟨hread, hread', ⟨steps, hsteps⟩, (hquotient hresolved).trans (congrArg some hrest), herror,
    hdivides hresolved'⟩

/-- Powers of powers of a tenth, which are not zero, evaluate to zero. -/
theorem evaluate_exact_underflow :
    let power (base : Expr) (s span : Span) :=
      binary "^" base (number ⟨false, 100000, 0⟩ "100000" s) span
    let first := power (number ⟨false, 1, -1⟩ "0.1" ⟨3, 6⟩) ⟨9, 15⟩ ⟨3, 15⟩
    let second := power (group first ⟨2, 16⟩) ⟨19, 25⟩ ⟨2, 25⟩
    let third := power (group second ⟨1, 26⟩) ⟨29, 35⟩ ⟨1, 35⟩
    let e := power (group third ⟨0, 36⟩) ⟨39, 45⟩ ⟨0, 45⟩
    ofText "(((0.1 ^ 100000) ^ 100000) ^ 100000) ^ 100000" = .ok e ∧
      (∀ node ∈ e.operations, InFragment {} node) ∧
      (∃ steps, e.evaluate {} = .ok (⟨false, 0, Decimal.lowest⟩, steps)) ∧
      ∃ q, e.rational = some q ∧ q ≠ 0 := by
  intro power first second third e
  have hvalue : e.value {} = .ok ⟨false, 0, Decimal.lowest⟩ := by decide +kernel
  have htenth : (⟨false, 1, -1⟩ : Decimal).toRat ≠ 0 := by norm_num [Decimal.toRat, Decimal.signed]
  have hbase : (∀ node ∈ (number ⟨false, 1, -1⟩ "0.1" ⟨3, 6⟩).operations, InFragment {} node) ∧
      ∃ q, (number ⟨false, 1, -1⟩ "0.1" ⟨3, 6⟩).rational = some q ∧ q ≠ 0 :=
    ⟨List.forall_mem_nil _, _, rfl, htenth⟩
  obtain ⟨hfragment, hexact⟩ : (∀ node ∈ e.operations, InFragment {} node) ∧
      ∃ q, e.rational = some q ∧ q ≠ 0 :=
    exact_power_literal (exact_power_literal (exact_power_literal (exact_power_literal hbase)))
  exact ⟨by decide +kernel, hfragment, exists_evaluate (by decide) hvalue, hexact⟩

end Expr
end Reckoner
