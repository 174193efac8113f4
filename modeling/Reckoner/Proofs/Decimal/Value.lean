/-
# What a decimal stands for, and exact sums

`Decimal.toRat` is the rational number of a decimal; decimals are numerically equal when their
rationals are. Lowering an exponent does not change it (`toRat_eq_signedAt`), so a sum taken at the
smaller of two exponents is the sum of the rationals (`toRat_add`). A result is rounded only below
the least exponent (`finish_cases`), which a sum of decimals from above it cannot reach.
-/

import Mathlib.Algebra.Order.Field.Power
import Mathlib.Tactic.FieldSimp
import Mathlib.Tactic.Linarith
import Reckoner.Decimal.Arithmetic
import Reckoner.Proofs.Digits

namespace Reckoner
namespace Decimal

/-- A magnitude behind its sign. -/
def signed (negative : Bool) (n : ℕ) : ℤ := if negative then -n else n

/-- The number that a decimal stands for. -/
def toRat (x : Decimal) : ℚ := signed x.negative x.coefficient * 10 ^ x.exponent

/-- What stands behind a minus is negative unless it is zero. -/
theorem signed_neg_iff (negative : Bool) {n : ℕ} (hn : n ≠ 0) :
    signed negative n < 0 ↔ negative := by
  cases negative <;> simp [signed, Nat.pos_of_ne_zero hn]

/-- The magnitude of what stands behind a sign. -/
@[simp] theorem natAbs_signed (negative : Bool) (n : ℕ) : (signed negative n).natAbs = n := by
  cases negative <;> simp [signed]

/-- Zero behind a sign is zero. -/
@[simp] theorem signed_zero (negative : Bool) : signed negative 0 = 0 := by
  cases negative <;> rfl

/-- A factor may stand outside of the sign. -/
theorem signed_mul (negative : Bool) (m n : ℕ) :
    signed negative (m * n) = signed negative m * n := by
  cases negative <;> simp [signed]

/-- The other sign negates. -/
theorem signed_not (negative : Bool) (n : ℕ) : signed (!negative) n = -signed negative n := by
  cases negative <;> simp [signed]

/-- A number is its magnitude behind its sign. -/
theorem signed_natAbs (n : ℤ) : signed (decide (n < 0)) n.natAbs = n := by
  rcases Int.lt_or_le n 0 with h | h
  · rw [signed, if_pos (decide_eq_true h)]; omega
  · rw [signed, if_neg (by simpa using h)]; omega

/-- A shift is a product by a power of ten. -/
theorem shiftLeft_eq (n k : ℕ) : shiftLeft n k = n * 10 ^ k := by
  rw [shiftLeft]
  split_ifs with h
  · rw [h, Nat.zero_mul]
  · rfl

/-- The coefficient at a lower exponent, with its zeros. -/
theorem coefficientAt_eq (x : Decimal) (e : ℤ) :
    x.coefficientAt e = x.coefficient * 10 ^ (x.exponent - e).toNat := shiftLeft_eq _ _

/-- The signed coefficient at a lower exponent, with its zeros. -/
theorem signedAt_eq (x : Decimal) (e : ℤ) :
    x.signedAt e = signed x.negative x.coefficient * (10 ^ (x.exponent - e).toNat : ℕ) := by
  rw [← signed_mul, ← coefficientAt_eq]; rfl

/-- Ten to an exponent is a whole power times ten to a smaller exponent. -/
theorem zpow_eq_pow_mul {e f : ℤ} (h : f ≤ e) :
    (10 : ℚ) ^ e = ((10 ^ (e - f).toNat : ℕ) : ℚ) * 10 ^ f := by
  rw [Nat.cast_pow, Nat.cast_ofNat, ← zpow_natCast, ← zpow_add₀ (by norm_num),
    Int.toNat_of_nonneg (by omega), Int.sub_add_cancel]

/-- **Lowering the exponent keeps the number.** -/
theorem toRat_eq_signedAt (x : Decimal) {e : ℤ} (h : e ≤ x.exponent) :
    x.toRat = x.signedAt e * 10 ^ e := by
  rw [toRat, zpow_eq_pow_mul h, signedAt_eq, Int.cast_mul, Int.cast_natCast, mul_assoc]

/-- A decimal is zero if its coefficient is. -/
theorem toRat_eq_zero_iff (x : Decimal) : x.toRat = 0 ↔ x.coefficient = 0 := by
  have h : (10 : ℚ) ^ x.exponent ≠ 0 := zpow_ne_zero _ (by norm_num)
  rw [toRat, mul_eq_zero, or_iff_left h, Int.cast_eq_zero, ← Int.natAbs_eq_zero, natAbs_signed]

/-- Turning the sign negates the number. -/
@[simp] theorem toRat_flip (x : Decimal) : x.flip.toRat = -x.toRat := by
  rw [toRat, toRat, flip, signed_not, Int.cast_neg, neg_mul]

/-- Negation negates the number. -/
@[simp] theorem toRat_negate (x : Decimal) : x.negate.toRat = -x.toRat := by
  by_cases h : x.coefficient = 0
  · rw [(toRat_eq_zero_iff x).2 h, neg_zero, toRat_eq_zero_iff]
    exact h
  · rw [← toRat_flip, negate, flip, isZero, beq_false_of_ne h, Bool.not_false, Bool.and_true]

/-- The number of zero. -/
@[simp] theorem toRat_zero : zero.toRat = 0 := (toRat_eq_zero_iff zero).2 rfl

/-- The range, by exponent, digits and place of the first digit. -/
theorem inRange_iff (x : Decimal) :
    x.inRange ↔ lowest ≤ x.exponent ∧ x.width ≤ precision ∧ x.adjusted ≤ highest := by
  simp only [inRange, Bool.and_eq_true, decide_eq_true_eq, and_assoc]

/-- Digits with a point among them are within the range if there are not too many. -/
theorem inRange_of_places (negative : Bool) {n places : ℕ} (hn : Digits.count n ≤ precision)
    (hplaces : places ≤ precision) : inRange ⟨negative, n, -(places : ℤ)⟩ := by
  rw [inRange_iff, adjusted, width]
  simp only [precision, lowest, highest] at hn hplaces ⊢
  omega

/-- What becomes of a result: a zero is moved into the range, and any other number is kept as it is
or, below the least exponent, rounded there. -/
theorem finish_cases {negative : Bool} {n : ℕ} {e : ℤ} {x : Decimal}
    (h : finish negative n e = .ok x) :
    (n = 0 ∧ x = ⟨negative, 0, max lowest (min highest e)⟩) ∨
      n ≠ 0 ∧ Digits.count n ≤ precision ∧ e + Digits.count n - 1 ≤ highest ∧
        (e < lowest ∧
            x = ⟨negative, Rounding.halfUp.dropDigits negative n (lowest - e).toNat, lowest⟩ ∨
          lowest ≤ e ∧ x = ⟨negative, n, e⟩) := by
  rw [finish] at h
  split_ifs at h with hn hcount hhigh hlow <;> cases h
  · exact .inl ⟨hn, rfl⟩
  · exact .inr ⟨hn, by omega, by omega, .inl ⟨hlow, rfl⟩⟩
  · exact .inr ⟨hn, by omega, by omega, .inr ⟨by omega, rfl⟩⟩

/-- A result whose exponent is not below the least one is exact. -/
theorem toRat_finish {negative : Bool} {n : ℕ} {e : ℤ} {x : Decimal}
    (h : finish negative n e = .ok x) (he : lowest ≤ e) : x.toRat = signed negative n * 10 ^ e := by
  rcases finish_cases h with ⟨rfl, rfl⟩ | ⟨-, -, -, ⟨hlow, -⟩ | ⟨-, rfl⟩⟩
  · rw [signed_zero, Int.cast_zero, zero_mul, toRat_eq_zero_iff]
  · omega
  · rfl

/-- What is brought into the range is no finer than the least exponent. -/
theorem lowest_le_exponent_of_finish {negative : Bool} {n : ℕ} {e : ℤ} {x : Decimal}
    (h : finish negative n e = .ok x) : lowest ≤ x.exponent := by
  rcases finish_cases h with ⟨-, rfl⟩ | ⟨-, -, -, ⟨-, rfl⟩ | ⟨hlow, rfl⟩⟩
  · exact le_max_left _ _
  · exact le_rfl
  · exact hlow

/-- The exact sum of two decimals as a decimal brought into the range. -/
theorem add_eq_finish {a b c : Decimal} (h : a.add b = .ok c) :
    ∃ negative, (signed negative (a.signedAt (min a.exponent b.exponent) +
        b.signedAt (min a.exponent b.exponent)).natAbs =
      a.signedAt (min a.exponent b.exponent) + b.signedAt (min a.exponent b.exponent)) ∧
      finish negative (a.signedAt (min a.exponent b.exponent) +
        b.signedAt (min a.exponent b.exponent)).natAbs (min a.exponent b.exponent) = .ok c := by
  simp only [add] at h
  split_ifs at h with hreach hsum
  · refine ⟨_, ?_, h⟩
    rw [hsum, Int.natAbs_zero, signed_zero]
  · exact ⟨_, signed_natAbs _, h⟩

/-- **Sums are exact.** -/
theorem toRat_add {a b c : Decimal} (h : a.add b = .ok c) (ha : lowest ≤ a.exponent)
    (hb : lowest ≤ b.exponent) : c.toRat = a.toRat + b.toRat := by
  obtain ⟨negative, hsigned, hfinish⟩ := add_eq_finish h
  rw [toRat_finish hfinish (le_min ha hb), hsigned, Int.cast_add, add_mul,
    toRat_eq_signedAt a (min_le_left _ _), toRat_eq_signedAt b (min_le_right _ _)]

/-- **Differences are exact.** -/
theorem toRat_subtract {a b c : Decimal} (h : a.subtract b = .ok c) (ha : lowest ≤ a.exponent)
    (hb : lowest ≤ b.exponent) : c.toRat = a.toRat - b.toRat := by
  rw [toRat_add h ha hb, toRat_flip, sub_eq_add_neg]

/-- A sum is no finer than the least exponent. -/
theorem lowest_le_exponent_of_add {a b c : Decimal} (h : a.add b = .ok c) :
    lowest ≤ c.exponent :=
  let ⟨_, _, hfinish⟩ := add_eq_finish h
  lowest_le_exponent_of_finish hfinish

/-! ### Zeros of either sign -/

/-- Decimals that are equal but for the sign of a zero. -/
structure Twin (x y : Decimal) : Prop where
  coefficient_eq : x.coefficient = y.coefficient
  exponent_eq : x.exponent = y.exponent
  negative_eq : x.negative = y.negative ∨ x.coefficient = 0

/-- A decimal is its own twin. -/
theorem Twin.refl (x : Decimal) : x.Twin x := ⟨rfl, rfl, .inl rfl⟩

/-- Twins are twins of each other. -/
theorem Twin.symm {x y : Decimal} (h : x.Twin y) : y.Twin x :=
  ⟨h.coefficient_eq.symm, h.exponent_eq.symm,
    h.negative_eq.imp Eq.symm h.coefficient_eq.symm.trans⟩

/-- Negating and turning the sign differ at zeros alone. -/
theorem twin_negate_flip (x : Decimal) : x.negate.Twin x.flip := by
  refine ⟨rfl, rfl, ?_⟩
  by_cases h : x.coefficient = 0
  · exact .inr h
  · rw [negate, flip, isZero, beq_false_of_ne h, Bool.not_false, Bool.and_true]
    exact .inl rfl

/-- Twins have the same signed coefficient. -/
theorem Twin.signed_eq {x y : Decimal} (h : x.Twin y) :
    signed x.negative x.coefficient = signed y.negative y.coefficient := by
  rw [← h.coefficient_eq]
  rcases h.negative_eq with hsign | hzero
  · rw [hsign]
  · rw [hzero, signed_zero, signed_zero]

/-- Twins are the same number. -/
theorem Twin.toRat_eq {x y : Decimal} (h : x.Twin y) : x.toRat = y.toRat := by
  rw [toRat, toRat, h.signed_eq, h.exponent_eq]

/-- Twins have the same signed coefficient at each exponent. -/
theorem Twin.signedAt_eq {x y : Decimal} (h : x.Twin y) (e : ℤ) : x.signedAt e = y.signedAt e := by
  rw [Decimal.signedAt_eq, Decimal.signedAt_eq, h.signed_eq, h.exponent_eq]

/-- Twins reach the same exponents. -/
theorem Twin.reaches_eq {x y : Decimal} (h : x.Twin y) (e : ℤ) : x.reaches e = y.reaches e := by
  rw [reaches, reaches, isZero, isZero, width, width, h.coefficient_eq, h.exponent_eq]

/-- Results that differ in the sign of a zero are brought into the range as twins. -/
theorem twin_of_finish {negative negative' : Bool} {n : ℕ} {e : ℤ} {x : Decimal}
    (h : finish negative n e = .ok x) (hsign : n ≠ 0 → negative = negative') :
    ∃ y, finish negative' n e = .ok y ∧ x.Twin y := by
  by_cases hn : n = 0
  · rw [finish, if_pos hn] at h
    cases h
    refine ⟨⟨negative', 0, max lowest (min highest e)⟩, ?_, rfl, rfl, .inr rfl⟩
    rw [finish, if_pos hn]
  · exact ⟨x, hsign hn ▸ h, .refl x⟩

/-- **Sums of twins are twins.** -/
theorem Twin.add {a a' b b' c : Decimal} (ha : a.Twin a') (hb : b.Twin b') (h : a.add b = .ok c) :
    ∃ c', a'.add b' = .ok c' ∧ c.Twin c' := by
  simp only [Decimal.add] at h ⊢
  rw [← ha.exponent_eq, ← hb.exponent_eq, ← ha.reaches_eq, ← hb.reaches_eq, ← ha.signedAt_eq,
    ← hb.signedAt_eq]
  by_cases hreach : (!a.reaches (min a.exponent b.exponent) ||
      !b.reaches (min a.exponent b.exponent)) = true
  · rw [if_pos hreach] at h
    cases h
  · rw [if_neg hreach] at h ⊢
    refine twin_of_finish h fun hne => ?_
    have hsum := mt Int.natAbs_eq_zero.2 hne
    rw [if_neg hsum, if_neg hsum]

end Decimal
end Reckoner
