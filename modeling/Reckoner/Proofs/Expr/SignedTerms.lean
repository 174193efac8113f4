/-
# Terms by recursion

A sum is split with a list of trees that are yet to be split. What comes out is said without the
list by recursion on the tree, with the sign that the tree stands under (`Expr.signedTerms`):

| tree | its terms |
| --- | --- |
| `l + r` | those of `l`, then those of `r` |
| `l - r` | those of `l`, then those of `r` under the other sign |
| any other | itself, under a minus with its own span if its sign is one |

The two agree (`terms_eq_signedTerms`), and from the recursion it is seen that no term is a sum
under its sign, that there is one term more than there are operators at the top (`Expr.joins`), and
that the terms of a text stand in it one behind the other.
-/

import Reckoner.Proofs.Expr.FailureExcerpt
import Reckoner.Proofs.Expr.RunningTotals

namespace Reckoner
namespace Expr

/-- The terms of a tree under a sign. -/
def signedTerms (negated : Bool) : Expr → List Expr
  | binary symbol left right span =>
    if symbol = "+" then left.signedTerms negated ++ right.signedTerms negated
    else if symbol = "-" then left.signedTerms negated ++ right.signedTerms (!negated)
    else [signedTerm (binary symbol left right span, negated)]
  | missing => [signedTerm (missing, negated)]
  | number value raw span => [signedTerm (number value raw span, negated)]
  | group inner span => [signedTerm (group inner span, negated)]
  | unary symbol operand span => [signedTerm (unary symbol operand span, negated)]

/-- The operators that join the terms of a tree. -/
def joins : Expr → List Expr
  | binary symbol left right span =>
    if Operator.isAdditive symbol then binary symbol left right span :: (left.joins ++ right.joins)
    else []
  | _ => []

/-- The summands with their signs are the terms by recursion. -/
theorem map_signedTerm_summands (e : Expr) (negated : Bool) :
    (e.summands negated).map signedTerm = e.signedTerms negated := by
  induction e generalizing negated with
  | binary symbol left right span ihl ihr =>
    rw [summands, signedTerms]
    by_cases hplus : symbol = "+"
    · subst hplus
      rw [if_pos rfl, if_pos (show Operator.isAdditive "+" from rfl), List.map_append, ihl, ihr]
      cases negated <;> rfl
    by_cases hminus : symbol = "-"
    · subst hminus
      rw [if_neg hplus, if_pos rfl, if_pos (show Operator.isAdditive "-" from rfl), List.map_append,
        ihl, ihr]
      cases negated <;> rfl
    · have hsum : ¬Operator.isAdditive symbol := by
        simp only [Operator.isAdditive, Bool.or_eq_true, beq_iff_eq, hplus, hminus, or_self,
          not_false_eq_true]
      rw [if_neg hplus, if_neg hminus, if_neg hsum]
      rfl
  | _ => rfl

/-- No summand is a sum. -/
theorem isSum_of_mem_summands {e : Expr} {negated : Bool} {p : Expr × Bool}
    (h : p ∈ e.summands negated) : p.1.isSum = false := by
  induction e generalizing negated with
  | binary symbol left right span ihl ihr =>
    rw [summands] at h
    split_ifs at h with hsum
    · rcases List.mem_append.1 h with h | h
      · exact ihl h
      · exact ihr h
    · rw [List.mem_singleton.1 h]
      exact Bool.eq_false_iff.2 hsum
  | _ =>
    rw [List.mem_singleton.1 h]
    rfl

/-- Each operator joins one more summand. -/
theorem length_summands (e : Expr) (negated : Bool) :
    (e.summands negated).length = e.joins.length + 1 := by
  induction e generalizing negated with
  | binary symbol left right span ihl ihr =>
    rw [summands, joins]
    split_ifs with hsum
    · rw [List.length_append, ihl, ihr, List.length_cons, List.length_append]
      omega
    · rfl
  | _ => rfl

/-! ### The list of trees that are yet to be split -/

/-- A missing node that is subtracted is all that cannot be a term. -/
theorem asTerm_eq_error_iff {p : Expr × Bool} {error : SummaryError} :
    asTerm p.2 p.1 = .error error ↔ p = (missing, true) ∧ error = .noSpan := by
  constructor
  · intro h
    by_cases hmissing : p = (missing, true)
    · rw [hmissing] at h
      exact ⟨hmissing, (Except.error.inj h).symm⟩
    · cases (asTerm_eq_signedTerm hmissing).symm.trans h
  · rintro ⟨rfl, rfl⟩
    rfl

/-- The terms are the summands, one after the other, with their signs. -/
theorem terms_eq_mapM (e : Expr) :
    e.terms = (e.summands false).mapM fun p => asTerm p.2 p.1 := by
  rw [Expr.terms, splitTerms_eq, List.flatMap_singleton]
  exact bind_pure _

/-- **Splitting is the recursion**, and fails only if a missing node is subtracted. -/
theorem terms_eq_ite (e : Expr) : e.terms =
    if (missing, true) ∈ e.summands false then .error .noSpan else .ok (e.signedTerms false) := by
  rw [terms_eq_mapM]
  split_ifs with hmissing
  · cases h : (e.summands false).mapM fun p => asTerm p.2 p.1 with
    | ok terms =>
      have hterms : ∀ p ∈ e.summands false, ∃ term, asTerm p.2 p.1 = .ok term :=
        forall_of_forall₂ (forall₂_of_mapM h) fun _ term hterm => ⟨term, hterm⟩
      obtain ⟨term, hterm⟩ := hterms _ hmissing
      cases hterm
    | error error =>
      obtain ⟨_, p, _, -, -, hp⟩ := mapM_eq_error_iff.1 h
      rw [(asTerm_eq_error_iff.1 hp).2]
  · rw [mapM_eq_ok fun p hp => asTerm_eq_signedTerm fun heq => hmissing (heq ▸ hp),
      map_signedTerm_summands]

/-! ### The places of terms -/

/-- A sign that is added has the place of its operand. -/
@[simp] theorem span_signedTerm (p : Expr × Bool) : (signedTerm p).span = p.1.span := by
  rw [signedTerm]
  split_ifs <;> rfl

/-- That summands lie within a span, one behind the other. -/
structure InOrder (span : Span) (summands : List (Expr × Bool)) : Prop where
  within : ∀ p ∈ summands, span.start ≤ p.1.span.start ∧ p.1.span.start < p.1.span.stop ∧
    p.1.span.stop ≤ span.stop
  apart : summands.Pairwise fun p q => p.1.span.stop ≤ q.1.span.start

/-- What is no sum is its only summand, and is where it stands. -/
theorem Derives.summands_of_not_isSum {tokens : List Token} {e : Expr} (h : Derives tokens e)
    (horder : Token.InOrder tokens) (hsum : e.isSum = false) (negated : Bool) :
    InOrder e.span (e.summands negated) := by
  obtain ⟨_, _, -, -, hspan, hlt⟩ := h.exists_ends horder
  rw [Expr.summands_of_not_isSum hsum]
  refine ⟨fun p hp => ?_, List.pairwise_singleton _ _⟩
  rw [List.mem_singleton.1 hp, hspan]
  exact ⟨le_rfl, hlt, le_rfl⟩

/-- **The summands of a tree that was read lie in it, one behind the other.** -/
theorem Derives.summands_inOrder {tokens : List Token} {e : Expr} (h : Derives tokens e)
    (horder : Token.InOrder tokens) (negated : Bool) : InOrder e.span (e.summands negated) := by
  induction h generalizing negated with
  | number hkind => exact (Derives.number hkind).summands_of_not_isSum horder rfl negated
  | group hopening hclosing hinner =>
    exact (Derives.group hopening hclosing hinner).summands_of_not_isSum horder rfl negated
  | unary hkind hsign hoperand hbinary =>
    exact (Derives.unary hkind hsign hoperand hbinary).summands_of_not_isSum horder rfl negated
  | @binary token symbol operator before after left right hkind hsymbol hl hr hleft hright ihl
      ihr =>
    have hnode := Derives.binary hkind hsymbol hl hr hleft hright
    cases hsum : Operator.isAdditive symbol with
    | false => exact hnode.summands_of_not_isSum horder hsum negated
    | true =>
      obtain ⟨hbefore, hrest, -⟩ := Token.inOrder_append_iff.1 horder
      obtain ⟨hwithinL, hapartL⟩ := ihl hbefore negated
      obtain ⟨hwithinR, hapartR⟩ :=
        ihr (Token.inOrder_cons_iff.1 hrest).2.1 (negated != (symbol == "-"))
      obtain ⟨hchildren, hbetween⟩ := hnode.children_span horder
      have hbetween := hbetween _ _ _ _ rfl
      have hinL := hchildren left (List.mem_cons_self ..)
      have hinR := hchildren right (List.mem_cons_of_mem _ (List.mem_singleton_self _))
      rw [summands, if_pos hsum]
      refine ⟨fun p hp => ?_, List.pairwise_append.2 ⟨hapartL, hapartR, fun p hp q hq => ?_⟩⟩
      · rcases List.mem_append.1 hp with hp | hp
        · have := hwithinL p hp
          omega
        · have := hwithinR p hp
          omega
      · have := hwithinL p hp
        have := hwithinR q hq
        omega

/-- **The terms of a tree are those of the recursion.** Splitting lists them, unless a missing node
is subtracted, for which there is no term. They are the summands under their signs, and no summand
is a sum; there is one more than there are operators that join them. The terms of a tree that was
read are texts of its source, one behind the other. -/
theorem terms_eq_signedTerms (e : Expr) :
    (e.terms = if (missing, true) ∈ e.summands false then .error .noSpan
      else .ok (e.signedTerms false)) ∧
    e.signedTerms false = (e.summands false).map signedTerm ∧
    (∀ p ∈ e.summands false, p.1.isSum = false) ∧
    (e.signedTerms false).length = e.joins.length + 1 ∧
    ∀ source, ofText source = .ok e → e.terms = .ok (e.signedTerms false) ∧
      (∀ term ∈ e.signedTerms false,
        0 ≤ term.span.start ∧ term.span.start < term.span.stop ∧ term.span.stop ≤ source.length) ∧
      (e.signedTerms false).Pairwise fun s t => s.span.stop ≤ t.span.start := by
  rw [← map_signedTerm_summands]
  refine ⟨?_, rfl, fun p => isSum_of_mem_summands, ?_, fun source hread => ?_⟩
  · rw [terms_eq_ite, map_signedTerm_summands]
  · rw [List.length_map, length_summands]
  · obtain ⟨tokens, hscans, hderives, -⟩ := ofText_eq_ok_iff.1 hread
    obtain ⟨⟨hstart, -, hstop⟩, -⟩ := ofText_node hread (self_mem_nodes e)
    obtain ⟨hwithin, hapart⟩ := hderives.summands_inOrder hscans.inOrder.2 false
    refine ⟨?_, fun term hterm => ?_, List.pairwise_map.2 ?_⟩
    · rw [terms_eq hderives.wellShaped]
    · obtain ⟨p, hp, rfl⟩ := List.mem_map.1 hterm
      have := hwithin p hp
      rw [span_signedTerm]
      omega
    · simpa only [span_signedTerm] using hapart

/-- The terms of `1 - 2 * 3 + 1`, of which the product is subtracted. -/
theorem terms_eq_signedTerms_product :
    let one := number .one "1" ⟨0, 1⟩
    let product :=
      binary "*" (number ⟨false, 2, 0⟩ "2" ⟨4, 5⟩) (number ⟨false, 3, 0⟩ "3" ⟨8, 9⟩) ⟨4, 9⟩
    let another := number .one "1" ⟨12, 13⟩
    let e := binary "+" (binary "-" one product ⟨0, 9⟩) another ⟨0, 13⟩
    ofText "1 - 2 * 3 + 1" = .ok e ∧
      e.terms = .ok [one, unary "-" product ⟨4, 9⟩, another] ∧
      [one, unary "-" product ⟨4, 9⟩, another].Pairwise fun s t => s.span.stop ≤ t.span.start := by
  intro one product another e
  have hread : ofText "1 - 2 * 3 + 1" = .ok e := by decide +kernel
  obtain ⟨-, -, -, -, hplaces⟩ := terms_eq_signedTerms e
  obtain ⟨hterms, -, hapart⟩ := hplaces _ hread
  exact ⟨hread, hterms, hapart⟩

/-- A difference that is subtracted gives back the sign of what it subtracts. -/
example (a b c : ℕ) (span : Span) :
    let term (n : ℕ) := number ⟨false, n, 0⟩ "" span
    (binary "-" (term a) (binary "-" (term b) (term c) span) span).terms =
      .ok [term a, unary "-" (term b) span, term c] := by
  intro term
  rw [terms_eq_ite]
  rfl

end Expr
end Reckoner
