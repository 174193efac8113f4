/-
# The summands of a tree

The terms of a sum are found with a list of trees yet to be split. By recursion on the tree they are
its `summands`: those of the left operand, then those of the right one, with the other sign under a
minus (`splitTerms_eq`). The value of a tree is the sum of the values of its summands with their
signs (`sum_addend_eq_toRat`), since sums and differences are exact.
-/

import Mathlib.Algebra.BigOperators.Group.List.Basic
import Reckoner.Expr.Terms
import Reckoner.Proofs.Decimal.Range
import Reckoner.Proofs.Expr.Values

namespace Reckoner
namespace Expr

/-- The summands of a tree, from left to right, each with whether it is subtracted. -/
def summands (negated : Bool) : Expr → List (Expr × Bool)
  | missing => [(missing, negated)]
  | number value raw span => [(number value raw span, negated)]
  | group inner span => [(group inner span, negated)]
  | unary symbol e span => [(unary symbol e span, negated)]
  | binary symbol left right span =>
    if Operator.isAdditive symbol then
      left.summands negated ++ right.summands (negated != (symbol == "-"))
    else [(binary symbol left right span, negated)]

/-- Whether a tree is a sum or a difference. -/
def isSum : Expr → Bool
  | binary symbol .. => Operator.isAdditive symbol
  | _ => false

/-- What is no sum is its only summand. -/
theorem summands_of_not_isSum {e : Expr} (h : e.isSum = false) (negated : Bool) :
    e.summands negated = [(e, negated)] := by
  cases e with
  | binary symbol left right span => exact if_neg (Bool.eq_false_iff.1 h)
  | _ => rfl

/-- **Splitting is listing the summands** of all trees that are yet to be split. -/
theorem splitTerms_eq (done : List Expr) (pending : List (Expr × Bool)) :
    splitTerms done pending =
      (pending.flatMap fun p => p.1.summands p.2).mapM (fun p => asTerm p.2 p.1) >>= fun terms =>
        .ok (done.reverse ++ terms) := by
  have hstep : ∀ (e : Expr) (negated : Bool) (done : List Expr) (pending : List (Expr × Bool)),
      (asTerm negated e >>= fun term =>
        (pending.flatMap fun p => p.1.summands p.2).mapM (fun p => asTerm p.2 p.1) >>= fun terms =>
          Except.ok ((term :: done).reverse ++ terms)) =
      ((e, negated) :: pending.flatMap fun p => p.1.summands p.2).mapM
        (fun p => asTerm p.2 p.1) >>= fun terms => .ok (done.reverse ++ terms) := by
    intro e negated done pending
    rw [List.mapM_cons, bind_assoc]
    refine congrArg _ (funext fun term => ?_)
    rw [bind_assoc]
    refine congrArg _ (funext fun terms => ?_)
    rw [List.reverse_cons, List.append_assoc]
    rfl
  fun_induction splitTerms done pending with
  | case1 done => simp
  | case2 done symbol left right span negated pending hadditive ih =>
    rw [ih, List.flatMap_cons, List.flatMap_cons, List.flatMap_cons, summands, if_pos hadditive,
      List.append_assoc]
  | case3 done symbol left right span negated pending hadditive ih =>
    have hsum : (binary symbol left right span).isSum = false := Bool.eq_false_iff.2 hadditive
    rw [List.flatMap_cons, summands_of_not_isSum hsum, List.singleton_append, ← hstep]
    exact congrArg _ (funext ih)
  | case4 done e negated pending hbinary ih =>
    have hsum : e.isSum = false := by
      cases e with
      | binary symbol left right span => exact (hbinary _ _ _ _ rfl).elim
      | _ => rfl
    rw [List.flatMap_cons, summands_of_not_isSum hsum, List.singleton_append, ← hstep]
    exact congrArg _ (funext ih)

/-- A tree has a summand. -/
theorem summands_ne_nil (e : Expr) (negated : Bool) : e.summands negated ≠ [] := by
  induction e generalizing negated with
  | binary symbol left right span ihl _ =>
    rw [summands]
    split_ifs
    · exact List.append_ne_nil_of_left_ne_nil (ihl negated) _
    · exact List.cons_ne_nil _ _
  | _ => exact List.cons_ne_nil _ _

/-- The numbers of a summand are numbers of the tree. -/
theorem numbers_subset_of_mem_summands {e : Expr} {negated : Bool} {p : Expr × Bool}
    (h : p ∈ e.summands negated) : p.1.numbers ⊆ e.numbers := by
  induction e generalizing negated with
  | binary symbol left right span ihl ihr =>
    rw [summands] at h
    split_ifs at h
    · rcases List.mem_append.1 h with h | h
      · exact List.subset_append_of_subset_left _ (ihl h)
      · exact List.subset_append_of_subset_right _ (ihr h)
    · rw [List.mem_singleton.1 h]
      exact List.Subset.refl _
  | _ =>
    rw [List.mem_singleton.1 h]
    exact List.Subset.refl _

/-- A summand has no more levels than the tree. -/
theorem nesting_le_of_mem_summands {e : Expr} {negated : Bool} {p : Expr × Bool}
    (h : p ∈ e.summands negated) : p.1.nesting ≤ e.nesting := by
  induction e generalizing negated with
  | binary symbol left right span ihl ihr =>
    rw [summands] at h
    split_ifs at h
    · rcases List.mem_append.1 h with h | h
      · exact (ihl h).trans (le_max_left _ _)
      · exact (ihr h).trans ((Nat.le_succ _).trans (le_max_right _ _))
    · rw [List.mem_singleton.1 h]
  | _ => rw [List.mem_singleton.1 h]

/-! ### Values -/

variable (settings : Settings)

/-- What a summand adds; without a value it adds nothing. -/
def addend (p : Expr × Bool) : ℚ :=
  match p.1.value settings with
  | .ok x => if p.2 then -x.toRat else x.toRat
  | .error _ => 0

variable {settings}

/-- A value is no finer than the least exponent, if the literals are not. -/
theorem lowest_le_exponent_of_value {e : Expr} {v : Decimal}
    (hnumbers : ∀ x ∈ e.numbers, Decimal.lowest ≤ x.exponent) (h : e.value settings = .ok v) :
    Decimal.lowest ≤ v.exponent :=
  value_induction (P := fun x => Decimal.lowest ≤ x.exponent) (fun _ hx => hx)
    Decimal.lowest_le_exponent_of_run hnumbers h

/-- **Values of explicit literals are explicit.** -/
theorem explicit_of_value {e : Expr} {v : Decimal} (hnumbers : ∀ x ∈ e.numbers, x.Explicit)
    (h : e.value settings = .ok v) : v.Explicit :=
  value_induction (fun _ hx => hx.negate) Decimal.explicit_of_run hnumbers h

/-- What is no sum adds itself, with the sign in front of it. -/
theorem sum_addend_of_not_isSum {e : Expr} (hsum : e.isSum = false) {v : Decimal}
    (h : e.value settings = .ok v) (negated : Bool) :
    ((e.summands negated).map (addend settings)).sum = if negated then -v.toRat else v.toRat := by
  rw [summands_of_not_isSum hsum, List.map_singleton, List.sum_singleton, addend, h]

/-- The operands of a sum, or the first one of a difference and the negated second one, add up to
the value. -/
theorem toRat_run_of_isAdditive {symbol : String} (hsymbol : Operator.isAdditive symbol)
    {operator : Operator} (hoperator : Operator.ofSymbol? symbol = some operator) {a b c : Decimal}
    (h : operator.operation.run settings a b = .ok c) (ha : Decimal.lowest ≤ a.exponent)
    (hb : Decimal.lowest ≤ b.exponent) :
    c.toRat = a.toRat + if symbol == "-" then -b.toRat else b.toRat := by
  rw [Operator.isAdditive, Bool.or_eq_true, beq_iff_eq, beq_iff_eq] at hsymbol
  rcases hsymbol with rfl | rfl
  · obtain rfl : (⟨2, .left, .add⟩ : Operator) = operator := Option.some.inj hoperator
    exact Decimal.toRat_add h ha hb
  · obtain rfl : (⟨2, .left, .subtract⟩ : Operator) = operator := Option.some.inj hoperator
    exact (Decimal.toRat_subtract h ha hb).trans (sub_eq_add_neg _ _)

/-- **A value is the sum of the values of the summands, each with its sign.** -/
theorem sum_addend_eq_toRat {e : Expr} (hnumbers : ∀ x ∈ e.numbers, Decimal.lowest ≤ x.exponent)
    {v : Decimal} (h : e.value settings = .ok v) (negated : Bool) :
    ((e.summands negated).map (addend settings)).sum = if negated then -v.toRat else v.toRat := by
  induction e generalizing v negated with
  | binary symbol left right span ihl ihr =>
    cases hsum : Operator.isAdditive symbol with
    | false =>
      exact sum_addend_of_not_isSum (show (binary symbol left right span).isSum = false from hsum) h
        negated
    | true =>
      obtain ⟨a, b, operator, ha, hb, hoperator, hrun⟩ := value_binary_eq_ok h
      have hnumbersL : ∀ x ∈ left.numbers, Decimal.lowest ≤ x.exponent := fun x hx =>
        hnumbers x (List.mem_append_left _ hx)
      have hnumbersR : ∀ x ∈ right.numbers, Decimal.lowest ≤ x.exponent := fun x hx =>
        hnumbers x (List.mem_append_right _ hx)
      have hv := toRat_run_of_isAdditive hsum hoperator hrun
        (lowest_le_exponent_of_value hnumbersL ha) (lowest_le_exponent_of_value hnumbersR hb)
      rw [summands, if_pos hsum, List.map_append, List.sum_append, ihl hnumbersL ha,
        ihr hnumbersR hb, hv]
      cases negated <;> cases symbol == "-" <;> simp <;> ring
  | _ => exact sum_addend_of_not_isSum rfl h negated

end Expr
end Reckoner
