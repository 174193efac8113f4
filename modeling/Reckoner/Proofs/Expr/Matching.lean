/-
# Trees of one shape

Two trees match if they are built alike, spans and spellings of numbers aside, and their numbers are
related place by place (`Expr.Matches`). A relation that signs and operations keep then holds
between their values as well (`Matches.value`).
-/

import Reckoner.Expr.Printer
import Reckoner.Proofs.Expr.Binding
import Reckoner.Proofs.Expr.Values

namespace Reckoner
namespace Expr

/-- Trees of one shape, spans and spellings aside, whose numbers are related. -/
inductive Matches (R : Decimal → Decimal → Prop) : Expr → Expr → Prop
  | number {v w : Decimal} {raw raw' : String} {span span' : Span} : R v w →
      Matches R (number v raw span) (number w raw' span')
  | group {d e : Expr} {span span' : Span} : Matches R d e →
      Matches R (group d span) (group e span')
  | unary {symbol : String} {d e : Expr} {span span' : Span} : Matches R d e →
      Matches R (unary symbol d span) (unary symbol e span')
  | binary {symbol : String} {l r l' r' : Expr} {span span' : Span} : Matches R l l' →
      Matches R r r' → Matches R (binary symbol l r span) (binary symbol l' r' span')

namespace Matches

variable {R : Decimal → Decimal → Prop} {d e : Expr}

/-- Trees that match need parentheses alike. -/
theorem needsParentheses_eq (h : Matches R d e) : e.needsParentheses = d.needsParentheses := by
  cases h <;> rfl

/-- Trees that match bind with the same strength. -/
theorem atLeast_eq (h : Matches R d e) (least : ℕ) : e.atLeast least = d.atLeast least := by
  cases h <;> rfl

/-- Trees that match have the same levels. -/
theorem nesting_eq (h : Matches R d e) : e.nesting = d.nesting := by
  induction h with
  | number => rfl
  | group _ ih | unary _ ih => rw [nesting, nesting, ih]
  | binary _ _ ihl ihr => rw [nesting, nesting, ihl, ihr]

/-- **What is kept between numbers is kept between values**: where the one tree has a value, so has
the other. -/
theorem value (settings : Settings) (hnegate : ∀ {v w}, R v w → R v.negate w.negate)
    (hrun : ∀ {operation a b c a' b'}, R a a' → R b b' →
      Operation.run settings operation a b = .ok c →
        ∃ c', operation.run settings a' b' = .ok c' ∧ R c c')
    (h : Matches R d e) {v : Decimal} (hv : d.value settings = .ok v) :
    ∃ w, e.value settings = .ok w ∧ R v w := by
  induction h generalizing v with
  | number hR =>
    cases hv
    exact ⟨_, rfl, hR⟩
  | group _ ih => exact ih hv
  | @unary symbol d e span span' _ ih =>
    obtain ⟨operand, hoperand, hv⟩ := bind_eq_ok_iff.1 hv
    cases hv
    obtain ⟨operand', hoperand', hR⟩ := ih hoperand
    refine ⟨applySign symbol operand', by rw [Expr.value, hoperand']; rfl, ?_⟩
    rw [applySign, applySign]
    split_ifs
    · exact hnegate hR
    · exact hR
  | binary _ _ ihl ihr =>
    obtain ⟨a, b, operator, ha, hb, hoperator, hv⟩ := value_binary_eq_ok hv
    obtain ⟨a', ha', hRa⟩ := ihl ha
    obtain ⟨b', hb', hRb⟩ := ihr hb
    obtain ⟨c', hc', hRc⟩ := hrun hRa hRb hv
    refine ⟨c', ?_, hRc⟩
    rw [Expr.value, ha', hb']
    simp only [bind, Except.bind, applySymbol, hoperator, hc', Except.mapError]

end Matches
end Expr
end Reckoner
