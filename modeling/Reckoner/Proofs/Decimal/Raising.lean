/-
# Powers product by product

A power is computed by squaring, and its products are rounded at an exponent `least` (`raise`).
Where the power itself is not below that, nothing is rounded on the way, since the products are
powers by smaller numbers: what comes out is the power of the coefficient (`raise_of_le`). Otherwise
no exponent falls below `least`, and none becomes positive (`exponent_raise_nonpos`).
-/

import Mathlib.Algebra.Order.Ring.Int
import Mathlib.Tactic.Ring
import Reckoner.Proofs.Decimal.Rounding

namespace Reckoner
namespace Decimal

variable {least : ℤ} {x : Decimal}

/-- A power that is not rounded, also if the coefficient is one. -/
theorem repeated_eq (x : Decimal) (n : ℕ) :
    x.repeated n = ⟨x.negative && n % 2 == 1, x.coefficient ^ n, x.exponent * n⟩ := by
  rw [repeated]
  split_ifs with hone
  · rw [hone, one_pow]
  · rfl

/-- The first power is the decimal. -/
@[simp] theorem repeated_one (x : Decimal) : x.repeated 1 = x := by
  rw [repeated_eq, pow_one, Nat.cast_one, mul_one, show (1 % 2 == 1) = true from rfl, Bool.and_true]

/-! ### Products -/

/-- A product that is not below `least` is not rounded. -/
theorem product_of_le {a b : Decimal} (h : least ≤ a.exponent + b.exponent) : product least a b =
    ⟨a.negative != b.negative, a.coefficient * b.coefficient, a.exponent + b.exponent⟩ :=
  rounded_of_le h

/-- Where a product stands. -/
theorem exponent_product (least : ℤ) (a b : Decimal) :
    (product least a b).exponent = max least (a.exponent + b.exponent) :=
  exponent_rounded ..

/-- A power that is squared is the power by twice the number. -/
theorem product_repeated_repeated {m : ℕ} (h : least ≤ x.exponent * (2 * m : ℕ)) :
    product least (x.repeated m) (x.repeated m) = x.repeated (2 * m) := by
  have hexponent : x.exponent * m + x.exponent * m = x.exponent * (2 * m : ℕ) := by
    push_cast
    ring
  rw [repeated_eq, repeated_eq, product_of_le (by rwa [hexponent]), hexponent, bne_self_eq_false,
    ← pow_add, ← Nat.two_mul, Nat.mul_mod_right]
  simp

/-- A power by an even number that is multiplied once more is the power by the next number. -/
theorem product_repeated_self {m : ℕ} (h : least ≤ x.exponent * (2 * m + 1 : ℕ)) :
    product least (x.repeated (2 * m)) x = x.repeated (2 * m + 1) := by
  have hexponent : x.exponent * (2 * m : ℕ) + x.exponent = x.exponent * (2 * m + 1 : ℕ) := by
    push_cast
    ring
  rw [repeated_eq, repeated_eq, product_of_le (by rwa [hexponent]), hexponent, Nat.mul_mod_right,
    Nat.mul_add_mod, ← pow_succ]
  simp

/-! ### Powers -/

/-- The levels are the binary digits behind the first: with one level less, a number is halved. -/
theorem log2_div_two {n level : ℕ} (h : n.log2 = level + 1) : (n / 2).log2 = level ∧ n / 2 ≠ 0 := by
  have hn : n ≠ 0 := by
    rintro rfl
    rw [Nat.log2_zero] at h
    omega
  have hle : 2 ^ (level + 1) ≤ n := h ▸ Nat.log2_self_le hn
  have hlt : n < 2 ^ (level + 1 + 1) := h ▸ Nat.lt_log2_self
  rw [pow_succ] at hle hlt
  have hpos : 0 < 2 ^ level := by positivity
  have hhalf : n / 2 ≠ 0 := by omega
  refine ⟨(Nat.log2_eq_iff hhalf).2 ⟨by omega, by omega⟩, hhalf⟩

/-- **Nothing is rounded on the way to a power that is not below `least`.** The exponents on the way
are between zero and that of the power. -/
theorem raiseAt_of_le (hx : x.exponent ≤ 0) {level n : ℕ} (hlevel : n.log2 = level) (hn : n ≠ 0)
    (h : least ≤ x.exponent * n) : raiseAt least x level n = x.repeated n := by
  induction level generalizing n with
  | zero =>
    obtain rfl : n = 1 := by
      have := (Nat.log2_eq_iff hn).1 hlevel
      omega
    exact (repeated_one x).symm
  | succ level ih =>
    obtain ⟨hhalf, hne⟩ := log2_div_two hlevel
    have hmono {m : ℕ} (hm : m ≤ n) : least ≤ x.exponent * m :=
      h.trans (mul_le_mul_of_nonpos_left (Int.ofNat_le.2 hm) hx)
    have hroot := ih hhalf hne (hmono (Nat.div_le_self n 2))
    have hsquare := product_repeated_repeated (hmono (show 2 * (n / 2) ≤ n by omega))
    simp only [raiseAt, hroot, hsquare]
    split_ifs with hodd
    · rw [product_repeated_self (hmono (by omega)), show 2 * (n / 2) + 1 = n by omega]
    · rw [show 2 * (n / 2) = n by omega]

/-- **A power that is not below `least` is that of the coefficient.** -/
theorem raise_of_le (hx : x.exponent ≤ 0) {n : ℕ} (hn : n ≠ 0) (h : least ≤ x.exponent * n) :
    raise least x n = x.repeated n :=
  raiseAt_of_le hx rfl hn h

/-- **No exponent becomes positive.** -/
theorem exponent_raise_nonpos (hleast : least ≤ 0) (hx : x.exponent ≤ 0) (n : ℕ) :
    (raise least x n).exponent ≤ 0 := by
  rw [raise]
  generalize n.log2 = level
  induction level generalizing n with
  | zero => exact hx
  | succ level ih =>
    have hroot := ih (n / 2)
    have hsquare : (product least (raiseAt least x level (n / 2))
        (raiseAt least x level (n / 2))).exponent ≤ 0 := by
      rw [exponent_product]
      exact max_le hleast (add_nonpos hroot hroot)
    rw [raiseAt]
    split_ifs
    · rw [exponent_product]
      exact max_le hleast (add_nonpos hsquare hx)
    · exact hsquare

/-- Products reach further down than results. -/
theorem leastOfProducts_le (n : ℕ) : leastOfProducts n ≤ lowest := by
  rw [leastOfProducts]
  omega

/-- Two roundings can come to more than one: 499.9… thousandths of a unit become 500, and these a
unit. -/
example : naturalPower ⟨false, 2236067977499, -1000000000000000011⟩ 2 = .ok ⟨false, 1, lowest⟩ := by
  decide +kernel

end Decimal
end Reckoner
