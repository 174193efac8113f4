/-
# Powers of numbers in full

A decimal whose exponent is not positive has all its digits in its coefficient, and a result of that
kind leaves the range on one side only: either it has too many digits, or it is rounded half up to a
multiple of `10 ^ lowest` (`finish_eq_ok_iff`).

Powers are not always computed (`naturalPower_eq`). A power that is certain to be far below
`10 ^ lowest` is zero at once, and what is certain is told by a bound on the logarithm (`logBound`).
The bound is right (`abs_pow_le_of_logBound`): a number with digits `d` places behind the point is
below `10 ^ -d`, and one just below one is `1 - g` with `1 - g ≤ exp (-g)` and `10 ≤ exp (10 / 3)`.
-/

import Mathlib.Analysis.Complex.Exponential
import Reckoner.Proofs.Decimal.Display
import Reckoner.Proofs.Decimal.Range

namespace Reckoner
namespace Decimal

/-! ### Results with all their digits -/

/-- **Without a positive exponent only digits can be too many**, and what is below the least
exponent is rounded there. -/
theorem finish_eq_ok_iff {negative : Bool} {n : ℕ} {e : ℤ} (he : e ≤ 0) {x : Decimal} :
    finish negative n e = .ok x ↔
      Digits.count n ≤ precision ∧ x = (⟨negative, n, e⟩ : Decimal).roundedTo lowest := by
  have hhigh : Digits.count n ≤ precision → ¬highest < e + Digits.count n - 1 := by
    simp only [precision, highest]
    omega
  rw [finish, roundedTo, rounded]
  by_cases hn : n = 0
  · subst hn
    rw [if_pos rfl, Rounding.dropDigits_zero_left, min_eq_right (he.trans (by decide)),
      Except.ok.injEq, and_iff_right count_zero_le, eq_comm]
    split_ifs with hlow
    · rw [max_eq_left hlow.le]
    · rw [max_eq_right (not_lt.1 hlow)]
  · rw [if_neg hn]
    by_cases hcount : precision < Digits.count n
    · rw [if_pos hcount]
      refine iff_of_false ?_ fun h => Nat.not_lt.2 h.1 hcount
      rintro ⟨⟩
    · rw [if_neg hcount, if_neg (hhigh (Nat.not_lt.1 hcount)), and_iff_right (Nat.not_lt.1 hcount)]
      split_ifs <;> rw [Except.ok.injEq, eq_comm]

/-! ### The bound on the logarithm -/

/-- Ten thirds are no less than the natural logarithm of ten. -/
theorem ten_le_exp : (10 : ℝ) ≤ Real.exp (10 / 3) :=
  calc (10 : ℝ) ≤ (1 / 3 + 1) ^ 10 := by norm_num
    _ ≤ Real.exp (1 / 3) ^ 10 := pow_le_pow_left₀ (by norm_num) (Real.add_one_le_exp _) 10
    _ = Real.exp (10 / 3) := by rw [← Real.exp_nat_mul]; norm_num

/-- A power of a number just below one. -/
theorem one_sub_pow_mul_le {g : ℝ} (hg : g ≤ 1) {n m : ℕ} (h : 10 * (m : ℝ) ≤ 3 * n * g) :
    (1 - g) ^ n * 10 ^ m ≤ 1 := by
  have hbase : (1 - g) ^ n ≤ Real.exp (-(n * g)) :=
    calc (1 - g) ^ n ≤ Real.exp (-g) ^ n :=
          pow_le_pow_left₀ (sub_nonneg.2 hg) (Real.one_sub_le_exp_neg g) n
      _ = Real.exp (-(n * g)) := by rw [← Real.exp_nat_mul, mul_neg]
  have hten : (10 : ℝ) ^ m ≤ Real.exp (n * g) :=
    calc (10 : ℝ) ^ m ≤ Real.exp (10 / 3) ^ m := pow_le_pow_left₀ (by norm_num) ten_le_exp m
      _ = Real.exp (m * (10 / 3)) := (Real.exp_nat_mul _ _).symm
      _ ≤ Real.exp (n * g) := Real.exp_le_exp.2 (by linarith)
  calc (1 - g) ^ n * 10 ^ m ≤ Real.exp (-(n * g)) * Real.exp (n * g) :=
        mul_le_mul hbase hten (by positivity) (Real.exp_pos _).le
    _ = 1 := by rw [← Real.exp_add, neg_add_cancel, Real.exp_zero]

/-- A coefficient has no more digits than its width. -/
theorem coefficient_lt_pow_width (x : Decimal) : x.coefficient < 10 ^ x.width :=
  Digits.lt_pow_count _

/-- A number is below the power of ten behind its leading digit. -/
theorem abs_toRat_lt (x : Decimal) : |x.toRat| < 10 ^ (x.adjusted + 1) := by
  have hlt : (x.coefficient : ℚ) < 10 ^ x.width := by exact_mod_cast x.coefficient_lt_pow_width
  rw [abs_toRat, adjusted, show x.exponent + x.width - 1 + 1 = (x.width : ℤ) + x.exponent by ring,
    zpow_add₀ (by norm_num), zpow_natCast]
  exact mul_lt_mul_of_pos_right hlt (zpow_pos (by norm_num) _)

/-- **The bound on the logarithm is right**: powers of numbers below one are as small as it says. -/
theorem abs_pow_le_of_logBound {x : Decimal} (hadjusted : x.adjusted < 0) (n : ℕ) :
    |x.toRat| ^ n * 10 ^ logBound x n ≤ 1 := by
  rw [logBound, if_neg (by omega)]
  split_ifs with hsmall
  · obtain ⟨k, hk⟩ := Int.eq_ofNat_of_zero_le (show 0 ≤ -x.adjusted - 1 by omega)
    have hle : |x.toRat| * 10 ^ k ≤ 1 :=
      calc |x.toRat| * 10 ^ k ≤ 10 ^ (x.adjusted + 1) * 10 ^ k :=
            mul_le_mul_of_nonneg_right x.abs_toRat_lt.le (by positivity)
        _ = 1 := by
          rw [← zpow_natCast, ← zpow_add₀ (by norm_num),
            show x.adjusted + 1 + (k : ℤ) = 0 by omega, zpow_zero]
    rw [hk, Int.toNat_natCast, pow_mul, ← mul_pow]
    exact pow_le_one₀ (by positivity) hle
  · -- The leading digit stands right behind the point, so the coefficient is below the unit.
    have hexponent : x.exponent = -(x.width : ℤ) := by
      rw [adjusted] at hadjusted hsmall
      omega
    have hlt := x.coefficient_lt_pow_width
    have hunit : (-x.exponent).toNat = x.width := by omega
    simp only [Digits.tenTo_eq, hunit, if_neg (Nat.not_le.2 hlt), min_eq_left (Nat.sub_le _ _)]
    generalize hm : 3 * n * (10 ^ x.width - x.coefficient) / (10 * 10 ^ x.width) = m
    have hpow : (0 : ℝ) < 10 ^ x.width := by positivity
    have hfloor : 10 * 10 ^ x.width * m ≤ 3 * n * (10 ^ x.width - x.coefficient) := by
      rw [← hm]
      exact Nat.mul_div_le _ _
    have hgap : (10 * 10 ^ x.width * m : ℝ) ≤ 3 * n * (10 ^ x.width - x.coefficient) := by
      have := (Nat.cast_le (α := ℝ)).2 hfloor
      rwa [Nat.cast_mul, Nat.cast_mul, Nat.cast_mul, Nat.cast_mul, Nat.cast_sub hlt.le,
        Nat.cast_pow, Nat.cast_ofNat, Nat.cast_ofNat] at this
    have hvalue : ((|x.toRat| : ℚ) : ℝ) = 1 - (10 ^ x.width - x.coefficient) / 10 ^ x.width := by
      rw [abs_toRat, hexponent, zpow_neg, zpow_natCast]
      push_cast
      field_simp
      ring
    have hreal := one_sub_pow_mul_le (g := (10 ^ x.width - x.coefficient) / 10 ^ x.width) (n := n)
      (m := m) (by rw [div_le_one hpow]; linarith [Nat.cast_nonneg (α := ℝ) x.coefficient])
      (by rw [← mul_div_assoc, le_div_iff₀ hpow]; linarith)
    rw [← hvalue] at hreal
    exact_mod_cast hreal

/-- A power of a number below one is as small as the bound says, in terms of its coefficient. -/
theorem coefficient_pow_mul_le {x : Decimal} (hadjusted : x.adjusted < 0) (n : ℕ) :
    (x.coefficient ^ n : ℚ) * 10 ^ (x.exponent * n + logBound x n) ≤ 1 := by
  have := abs_pow_le_of_logBound hadjusted n
  rwa [abs_toRat, mul_pow, ← zpow_natCast (10 ^ x.exponent : ℚ), ← zpow_mul, mul_assoc,
    ← zpow_natCast (10 : ℚ), ← zpow_add₀ (by norm_num)] at this

/-- A power that is certain to be below the least exponent has an exponent below it. -/
theorem exponent_mul_lt_of_logBound {x : Decimal} {n : ℕ} (hadjusted : x.adjusted < 0)
    (hne : x.coefficient ≠ 0) (hbound : (-lowest).toNat < logBound x n) :
    x.exponent * n < lowest := by
  by_contra! hle
  have hpow := coefficient_pow_mul_le hadjusted n
  have hcoefficient : (1 : ℚ) ≤ x.coefficient ^ n :=
    one_le_pow₀ (Nat.one_le_cast.2 (Nat.one_le_iff_ne_zero.2 hne))
  have hten : (1 : ℚ) < 10 ^ (x.exponent * n + logBound x n) :=
    one_lt_zpow₀ (by norm_num) (by omega)
  exact absurd hpow (not_le.2 (one_lt_mul_of_le_of_lt hcoefficient hten))

/-! ### Powers by natural numbers -/

/-- **A power is computed product by product**, unless it is certain to leave the range. -/
theorem naturalPower_eq {x : Decimal} (hx : x.exponent ≤ 0) {n : ℕ} (hn : n ≠ 0) :
    naturalPower x n =
      if 0 ≤ x.adjusted && highest.toNat < logBound x n then .error .overflow
      else if x.adjusted < 0 && x.exponent * n < lowest && (-lowest).toNat < logBound x n then
        .ok ⟨x.negative && n % 2 == 1, 0, lowest⟩
      else if precision < (x.width - 1) * n then .error .tooManyDigits
      else finish (raise (leastOfProducts n) x n).negative
        (raise (leastOfProducts n) x n).coefficient (raise (leastOfProducts n) x n).exponent := by
  rw [naturalPower]
  by_cases hle : leastOfProducts n ≤ x.exponent * n
  · simp only [if_pos hle, raise_of_le hx hn hle]
  · simp only [if_neg hle]

/-- A power that is certain to be below the least exponent is no multiple of the unit there. -/
theorem abs_pow_lt_of_logBound {x : Decimal} {n : ℕ} (hadjusted : x.adjusted < 0)
    (hbound : (-lowest).toNat < logBound x n) : |x.toRat| ^ n < 10 ^ lowest := by
  have hten : (1 : ℚ) < 10 ^ lowest * 10 ^ logBound x n := by
    rw [← zpow_natCast, ← zpow_add₀ (by norm_num)]
    exact one_lt_zpow₀ (by norm_num) (by omega)
  have hlt := (abs_pow_le_of_logBound hadjusted n).trans_lt hten
  exact lt_of_mul_lt_mul_right hlt (by positivity)

/-! ### Exponents -/

/-- The coefficient of an integer is a multiple of the power of ten behind its point. -/
theorem isInteger_iff {x : Decimal} (he : x.exponent ≤ 0) :
    x.isInteger ↔ 10 ^ (-x.exponent).toNat ∣ x.coefficient := by
  rw [isInteger, isZero, Bool.or_eq_true, Bool.or_eq_true, Bool.and_eq_true, beq_iff_eq,
    decide_eq_true_iff, decide_eq_true_iff, beq_iff_eq, Digits.tenTo_eq]
  constructor
  · rintro ((h | h) | ⟨-, h⟩)
    · rw [h]
      exact dvd_zero _
    · rw [show (-x.exponent).toNat = 0 by omega, pow_zero]
      exact one_dvd _
    · exact Nat.dvd_of_mod_eq_zero h
  · intro h
    by_cases hc : x.coefficient = 0
    · exact .inl (.inl hc)
    · refine .inr ⟨(Nat.pow_lt_pow_iff_right (by decide : 1 < 10)).1 ?_, Nat.mod_eq_zero_of_dvd h⟩
      exact (Nat.le_of_dvd (Nat.pos_of_ne_zero hc) h).trans_lt x.coefficient_lt_pow_width

/-- Without a positive exponent, the magnitude of an integer is a quotient of the coefficient. -/
theorem integerPart_eq {x : Decimal} (he : x.exponent ≤ 0) :
    x.integerPart = x.coefficient / 10 ^ (-x.exponent).toNat := by
  rw [integerPart, Digits.tenTo_eq, Digits.tenTo_eq, Int.toNat_eq_zero.2 he, pow_zero, Nat.mul_one]
  split_ifs with hzero
  · rw [show x.coefficient = 0 from beq_iff_eq.1 hzero, Nat.zero_div]
  · rfl

/-- Zeros in front of the point are digits of the integer. -/
theorem integerPart_eq_of_nonneg {x : Decimal} {k : ℕ} (h : x.exponent = k) :
    x.integerPart = x.coefficient * 10 ^ k := by
  rw [integerPart, Digits.tenTo_eq, Digits.tenTo_eq, h, Int.toNat_natCast,
    show (-(k : ℤ)).toNat = 0 by omega, pow_zero, Nat.div_one]
  split_ifs with hzero
  · rw [show x.coefficient = 0 from beq_iff_eq.1 hzero, Nat.zero_mul]
  · rfl

/-- An integer is its magnitude behind its sign. -/
theorem toRat_of_isInteger {x : Decimal} (h : x.isInteger) :
    x.toRat = signed x.negative x.integerPart := by
  rcases Int.le_total x.exponent 0 with he | he
  · obtain ⟨m, hm⟩ := (isInteger_iff he).1 h
    obtain ⟨k, hk⟩ := Int.eq_ofNat_of_zero_le (show 0 ≤ -x.exponent by omega)
    have hexponent : x.exponent = -(k : ℤ) := by omega
    rw [hk, Int.toNat_natCast] at hm
    rw [integerPart_eq he, toRat, hexponent, Int.neg_neg, Int.toNat_natCast, hm,
      Nat.mul_div_cancel_left _ (by positivity), Nat.mul_comm, signed_mul, Int.cast_mul,
      Int.cast_natCast, Nat.cast_pow, Nat.cast_ofNat, zpow_neg, zpow_natCast,
      mul_inv_cancel_right₀ (by positivity)]
  · obtain ⟨k, hk⟩ := Int.eq_ofNat_of_zero_le he
    rw [integerPart_eq_of_nonneg hk, toRat, hk, signed_mul, zpow_natCast]
    push_cast
    rfl

/-- **A decimal is an integer if its number is one.** -/
theorem isInteger_iff_exists (x : Decimal) : x.isInteger ↔ ∃ n : ℤ, x.toRat = n := by
  constructor
  · intro h
    exact ⟨_, toRat_of_isInteger h⟩
  · rintro ⟨n, hn⟩
    rcases Int.lt_or_le x.exponent 0 with he | he
    · obtain ⟨k, hk⟩ := Int.eq_ofNat_of_zero_le (show 0 ≤ -x.exponent by omega)
      rw [isInteger_iff he.le, hk, Int.toNat_natCast]
      rw [toRat, show x.exponent = -(k : ℤ) by omega, zpow_neg, zpow_natCast,
        mul_inv_eq_iff_eq_mul₀ (by positivity)] at hn
      have hmultiple : signed x.negative x.coefficient = n * (10 ^ k : ℕ) := by exact_mod_cast hn
      have hdvd := Int.natAbs_dvd_natAbs.2 (Dvd.intro_left n hmultiple.symm)
      rwa [natAbs_signed, Int.natAbs_natCast] at hdvd
    · rw [isInteger, decide_eq_true he, Bool.or_true, Bool.true_or]

/-- The limit of an exponent is one on its magnitude. -/
theorem exceeds_iff (x : Decimal) (limit : ℕ) : x.exceeds limit ↔ limit < x.integerPart := by
  rw [exceeds, Bool.and_eq_true, Bool.not_eq_true', Bool.or_eq_true, decide_eq_true_iff,
    decide_eq_true_iff]
  cases hzero : x.isZero with
  | true => simp [integerPart, hzero]
  | false =>
    rw [and_iff_right rfl, or_iff_right_iff_imp]
    intro hlong
    obtain ⟨k, hk⟩ := Int.eq_ofNat_of_zero_le (show 0 ≤ x.exponent by omega)
    have hpos : 0 < x.coefficient := Nat.pos_of_ne_zero (beq_eq_false_iff_ne.1 hzero)
    calc limit < 10 ^ Digits.count limit := Digits.lt_pow_count limit
      _ ≤ 10 ^ k := Nat.pow_le_pow_right (by decide) (by omega)
      _ ≤ x.coefficient * 10 ^ k := Nat.le_mul_of_pos_left _ hpos
      _ = x.integerPart := (integerPart_eq_of_nonneg hk).symm

end Decimal
end Reckoner
