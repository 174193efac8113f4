/-
# How operators bind

The parser asks of the next operator whether it is strong enough for the place (`operatorAt?`). What
that means for trees is said here without the parser: a tree fits a place of strength `least` if no
operator on its top is weaker (`atLeast`), and a token ends a tree if no operand on its right edge
goes on with it (`endsAt`). The table makes these agree, because operators of one strength group to
one side (`side_eq_of_strength_eq`): the left operand of an operator is what ends before it
(`leftStrength_le_iff`).
-/

import Mathlib.Order.Basic
import Reckoner.Expr.Parser

namespace Reckoner

namespace Operator

/-- The least strength of an operator in the left operand of this one. -/
def leftStrength (operator : Operator) : ℕ :=
  match operator.side with
  | .left => operator.strength
  | .right => operator.strength + 1

/-- A symbol that has an operator is in the table. -/
theorem mem_table_of_ofSymbol? {symbol : String} {operator : Operator}
    (h : ofSymbol? symbol = some operator) : (symbol, operator) ∈ table := by
  obtain ⟨before, after, htable, -⟩ := List.lookup_eq_some_iff.1 h
  rw [htable]
  exact List.mem_append_right _ (List.mem_cons_self ..)

/-- **Operators of one strength group to one side.** -/
theorem side_eq_of_strength_eq {a b : Operator} {s t : String} (ha : ofSymbol? s = some a)
    (hb : ofSymbol? t = some b) (h : a.strength = b.strength) : a.side = b.side := by
  have key : ∀ x ∈ table, ∀ y ∈ table, x.2.strength = y.2.strength → x.2.side = y.2.side := by
    decide
  exact key _ (mem_table_of_ofSymbol? ha) _ (mem_table_of_ofSymbol? hb) h

/-- The left operand of `a` may have `b` on its top if the right operand of `b` does not go on with
`a`. -/
theorem leftStrength_le_iff {a b : Operator} {s t : String} (ha : ofSymbol? s = some a)
    (hb : ofSymbol? t = some b) : a.leftStrength ≤ b.strength ↔ a.strength < b.rightStrength := by
  have hside := side_eq_of_strength_eq ha hb
  rw [leftStrength, rightStrength]
  rcases Nat.lt_trichotomy a.strength b.strength with h | h | h
  · cases a.side <;> cases b.side <;> simp only <;> omega
  · rw [hside h]
    cases b.side <;> simp only <;> omega
  · cases a.side <;> cases b.side <;> simp only <;> omega

/-- A left operand binds as strongly as its operator, or more. -/
theorem strength_le_leftStrength (a : Operator) : a.strength ≤ a.leftStrength := by
  rw [leftStrength]
  split <;> omega

/-- A right operand binds as strongly as its operator, or more. -/
theorem strength_le_rightStrength (a : Operator) : a.strength ≤ a.rightStrength := by
  rw [rightStrength]
  split <;> omega

end Operator

namespace Expr

/-- Whether a tree is an operator with its operands. -/
def isBinary : Expr → Bool
  | binary .. => true
  | _ => false

/-- Whether a tree has no operator of less strength on its top. -/
def atLeast (least : ℕ) : Expr → Bool
  | binary symbol .. => (Operator.ofSymbol? symbol).any (least ≤ ·.strength)
  | _ => true

/-- Whether a tree that is followed by `token` ends there: its right operand, if it has one, does
not go on. -/
def endsAt (token : Token) : Expr → Bool
  | binary symbol .. =>
    (Operator.ofSymbol? symbol).all fun operator =>
      (operatorAt? operator.rightStrength token).isNone
  | _ => true

/-- What is not an operation of two operands binds as strongly as is asked for. -/
theorem atLeast_of_not_isBinary {e : Expr} (h : e.isBinary = false) (least : ℕ) :
    e.atLeast least := by
  cases e with
  | binary => cases h
  | _ => rfl

/-- What is not an operation of two operands ends in front of any token. -/
theorem endsAt_of_not_isBinary {e : Expr} (h : e.isBinary = false) (token : Token) :
    e.endsAt token := by
  cases e with
  | binary => cases h
  | _ => rfl

/-- What binds strongly enough does so where less is asked for. -/
theorem atLeast_mono {m n : ℕ} (h : m ≤ n) {e : Expr} (he : e.atLeast n) : e.atLeast m := by
  cases e with
  | binary symbol left right span =>
    rw [atLeast, Option.any_eq_true] at he ⊢
    obtain ⟨operator, hoperator, hn⟩ := he
    exact ⟨operator, hoperator, decide_eq_true (Nat.le_trans h (of_decide_eq_true hn))⟩
  | _ => rfl

/-- An operation of two operands binds as strongly as its operator. -/
theorem atLeast_iff {symbol : String} {operator : Operator}
    (h : Operator.ofSymbol? symbol = some operator) {least : ℕ} {left right : Expr} {span : Span} :
    (binary symbol left right span).atLeast least ↔ least ≤ operator.strength := by
  rw [atLeast, h, Option.any_some, decide_eq_true_iff]

/-- It ends in front of a token that its right operand does not go on with. -/
theorem endsAt_iff {symbol : String} {operator : Operator}
    (h : Operator.ofSymbol? symbol = some operator) {token : Token} {left right : Expr}
    {span : Span} : (binary symbol left right span).endsAt token ↔
      operatorAt? operator.rightStrength token = none := by
  rw [endsAt, h, Option.all_some, Option.isNone_iff_eq_none]

/-! ### The next operator -/

/-- The operator at a token, if it is strong enough. -/
theorem operatorAt?_eq_some_iff {least : ℕ} {token : Token} {symbol : String}
    {operator : Operator} : operatorAt? least token = some (symbol, operator) ↔
      token.kind = .operator symbol ∧ Operator.ofSymbol? symbol = some operator ∧
        least ≤ operator.strength := by
  rw [operatorAt?]
  constructor
  · intro h
    split at h
    · rename_i s hs
      obtain ⟨o, ho, h⟩ := Option.bind_eq_some_iff.1 h
      split_ifs at h with hlt
      obtain ⟨rfl, rfl⟩ := Prod.mk.inj (Option.some.inj h)
      exact ⟨hs, ho, Nat.not_lt.1 hlt⟩
    · cases h
  · rintro ⟨hkind, hsymbol, hle⟩
    rw [hkind]
    simp only [hsymbol, Option.bind_some, if_neg (Nat.not_lt.2 hle)]

/-- What does not go on at a place does not go on at a stronger one. -/
theorem operatorAt?_eq_none_mono {m n : ℕ} (h : m ≤ n) {token : Token}
    (hm : operatorAt? m token = none) : operatorAt? n token = none := by
  rw [Option.eq_none_iff_forall_ne_some] at hm ⊢
  rintro ⟨symbol, operator⟩ hn
  obtain ⟨hkind, hsymbol, hle⟩ := operatorAt?_eq_some_iff.1 hn
  exact hm _ (operatorAt?_eq_some_iff.2 ⟨hkind, hsymbol, Nat.le_trans h hle⟩)

/-- At a token that is no operator there is none. -/
theorem operatorAt?_of_not_operator {token : Token} (h : ∀ symbol, token.kind ≠ .operator symbol)
    (least : ℕ) : operatorAt? least token = none := by
  rw [Option.eq_none_iff_forall_ne_some]
  rintro ⟨symbol, operator⟩ hsome
  exact h symbol (operatorAt?_eq_some_iff.1 hsome).1

/-- **A left operand is a tree that ends before its operator.** -/
theorem atLeast_leftStrength_iff {token : Token} {symbol : String} {operator : Operator}
    (hkind : token.kind = .operator symbol) (h : Operator.ofSymbol? symbol = some operator)
    {e : Expr} (he : e.atLeast 0) : e.atLeast operator.leftStrength ↔ e.endsAt token := by
  cases e with
  | binary s left right span =>
    rw [atLeast, Option.any_eq_true] at he
    obtain ⟨inner, hinner, -⟩ := he
    rw [atLeast_iff hinner, endsAt_iff hinner, Operator.leftStrength_le_iff h hinner,
      Option.eq_none_iff_forall_ne_some]
    constructor
    · rintro hlt ⟨t, o⟩ hsome
      obtain ⟨ht, ho, hle⟩ := operatorAt?_eq_some_iff.1 hsome
      obtain rfl := Token.Kind.operator.inj (hkind.symm.trans ht)
      obtain rfl := Option.some.inj (h.symm.trans ho)
      omega
    · intro hnone
      by_contra hlt
      exact hnone _ (operatorAt?_eq_some_iff.2 ⟨hkind, h, Nat.not_lt.1 hlt⟩)
  | _ => exact iff_of_true rfl rfl

/-- Where the right operand of an operator ends, so do the operands in it. -/
theorem endsAt_of_atLeast {least : ℕ} {token : Token} {e : Expr} (he : e.atLeast least)
    (h : operatorAt? least token = none) : e.endsAt token := by
  cases e with
  | binary symbol left right span =>
    rw [atLeast, Option.any_eq_true] at he
    obtain ⟨operator, hoperator, hle⟩ := he
    have hle := of_decide_eq_true hle
    exact (endsAt_iff hoperator).2
      (operatorAt?_eq_none_mono (Nat.le_trans hle operator.strength_le_rightStrength) h)
  | _ => rfl

end Expr
end Reckoner
