/-
# Exact results and where they stand

One number may be written at many exponents, and arithmetic keeps track of them: a sum, a difference
and a remainder stand at the smaller exponent of their operands, a product at the sum of both. If a
decimal of the range holds the exact result there (`Fits`), it is what a product is; sums,
differences and remainders are exact whenever there is one (`results_exact`). So the number of a
result does not depend on how the operands are written.

There is a result wherever the operands can be lowered to the smaller exponent (`Aligned`) and the
exact one fits.
-/

import Mathlib.Data.Sign.Defs
import Reckoner.Proofs.Decimal.Exactness

namespace Reckoner

/-- The undefined operation that an outcome reports, if it does. -/
def refusal : Except Fault Decimal → Option Reason
  | .error fault => fault.reason?
  | .ok _ => none

/-- A remainder is zero or has the sign of the dividend. -/
theorem sign_remainder (a : ℚ) {b : ℚ} (hb : b ≠ 0) :
    remainder a b = 0 ∨ SignType.sign (remainder a b) = SignType.sign a := by
  have hsign := (remainder_bounds a hb).2
  rcases lt_trichotomy a 0 with ha | rfl | ha
  · rcases (nonpos_of_mul_nonneg_right hsign ha).lt_or_eq with hr | hr
    · exact .inr (by rw [sign_neg ha, sign_neg hr])
    · exact .inl hr
  · exact .inl (by simp [remainder, truncate])
  · rcases (nonneg_of_mul_nonneg_right hsign ha).lt_or_eq with hr | hr
    · exact .inr (by rw [sign_pos ha, sign_pos hr])
    · exact .inl hr.symm

namespace Decimal

/-- The decimal is the number `q`, written at exponent `e`. -/
structure Holds (x : Decimal) (q : ℚ) (e : ℤ) : Prop where
  toRat_eq : x.toRat = q
  exponent_eq : x.exponent = e

/-- Whether the number `q` can be written at exponent `e` within the range. -/
def Fits (q : ℚ) (e : ℤ) : Prop := ∃ x : Decimal, x.inRange ∧ x.Holds q e

/-- Whether two decimals can both be written at the smaller of their exponents. -/
def Aligned (a b : Decimal) : Prop :=
  a.reaches (min a.exponent b.exponent) ∧ b.reaches (min a.exponent b.exponent)

/-! ### Results within the exponents -/

/-- The exponents of the range. -/
theorem exponent_bounds {x : Decimal} (h : x.inRange) :
    lowest ≤ x.exponent ∧ x.exponent ≤ highest := by
  obtain ⟨hlow, -, hhigh⟩ := (inRange_iff x).1 h
  have hwidth := Digits.count_pos x.coefficient
  rw [adjusted, width] at hhigh
  exact ⟨hlow, by omega⟩

/-- Within the exponents of the range, a result is kept as it is. -/
theorem eq_of_finish {negative : Bool} {n : ℕ} {e : ℤ} {x : Decimal}
    (h : finish negative n e = .ok x) (hlow : lowest ≤ e) (hhigh : e ≤ highest) :
    x = ⟨negative, n, e⟩ := by
  rcases finish_cases h with ⟨rfl, rfl⟩ | ⟨-, -, -, ⟨hunder, -⟩ | ⟨-, rfl⟩⟩
  · rw [min_eq_right hhigh, max_eq_right hlow]
  · omega
  · rfl

/-- What can be written at its exponent is a result. -/
theorem finish_of_fits {negative : Bool} {n : ℕ} {e : ℤ} (h : Fits (signed negative n * 10 ^ e) e) :
    finish negative n e = .ok ⟨negative, n, e⟩ := by
  obtain ⟨x, hrange, hvalue, rfl⟩ := h
  obtain ⟨hlow, hhigh⟩ := exponent_bounds hrange
  have habs : |x.toRat| = |(⟨negative, n, x.exponent⟩ : Decimal).toRat| := congrArg _ hvalue
  rw [abs_toRat, abs_toRat] at habs
  have hcoefficient : x.coefficient = n := by
    exact_mod_cast mul_right_cancel₀ (zpow_ne_zero x.exponent (by norm_num)) habs
  obtain ⟨-, hwidth, hadjusted⟩ := (inRange_iff x).1 hrange
  rw [adjusted, width, hcoefficient] at hadjusted
  rw [width, hcoefficient] at hwidth
  rw [finish]
  split_ifs with hn
  · rw [hn, min_eq_right hhigh, max_eq_right hlow]
  · omega
  · omega
  · omega
  · rfl

/-! ### Sums and differences -/

/-- **A sum stands at the smaller exponent.** -/
theorem add_holds {a b c : Decimal} (ha : a.inRange) (hb : b.inRange) (h : a.add b = .ok c) :
    c.Holds (a.toRat + b.toRat) (min a.exponent b.exponent) := by
  obtain ⟨hlowA, hhighA⟩ := exponent_bounds ha
  obtain ⟨hlowB, -⟩ := exponent_bounds hb
  refine ⟨toRat_add h hlowA hlowB, ?_⟩
  obtain ⟨negative, -, hfinish⟩ := add_eq_finish h
  rw [eq_of_finish hfinish (le_min hlowA hlowB) ((min_le_left _ _).trans hhighA)]

/-- The sum of what can be aligned is computed if it fits. -/
theorem exists_add {a b : Decimal} (h : a.Aligned b)
    (hfits : Fits (a.toRat + b.toRat) (min a.exponent b.exponent)) : ∃ c, a.add b = .ok c := by
  obtain ⟨hreachA, hreachB⟩ := h
  simp only [add, hreachA, hreachB, Bool.not_true, Bool.or_self, Bool.false_eq_true, if_false]
  rw [toRat_eq_signedAt a (min_le_left a.exponent b.exponent),
    toRat_eq_signedAt b (min_le_right a.exponent b.exponent), ← add_mul, ← Int.cast_add] at hfits
  generalize a.signedAt _ + b.signedAt _ = sum at hfits ⊢
  have hsigned :
      signed (if sum = 0 then a.negative && b.negative else sum < 0) sum.natAbs = sum := by
    split_ifs with hzero
    · rw [hzero, Int.natAbs_zero, signed_zero]
    · exact signed_natAbs sum
  rw [← hsigned] at hfits
  exact ⟨_, finish_of_fits hfits⟩

/-- **A difference stands at the smaller exponent.** -/
theorem subtract_holds {a b c : Decimal} (ha : a.inRange) (hb : b.inRange)
    (h : a.subtract b = .ok c) : c.Holds (a.toRat - b.toRat) (min a.exponent b.exponent) := by
  have hholds := add_holds ha (show b.flip.inRange from hb) h
  rwa [toRat_flip, ← sub_eq_add_neg] at hholds

/-- The difference of what can be aligned is computed if it fits. -/
theorem exists_subtract {a b : Decimal} (h : a.Aligned b)
    (hfits : Fits (a.toRat - b.toRat) (min a.exponent b.exponent)) : ∃ c, a.subtract b = .ok c := by
  rw [sub_eq_add_neg, ← toRat_flip] at hfits
  exact exists_add (show a.Aligned b.flip from h) hfits

/-! ### Products -/

/-- **A product that fits is computed**, and stands at the sum of the exponents. -/
theorem exists_multiply {a b : Decimal}
    (hfits : Fits (a.toRat * b.toRat) (a.exponent + b.exponent)) :
    ∃ c, a.multiply b = .ok c ∧ c.Holds (a.toRat * b.toRat) (a.exponent + b.exponent) := by
  have hproduct := toRat_product a b
  rw [toRat] at hproduct
  exact ⟨_, finish_of_fits (by rwa [hproduct]), toRat_product a b, rfl⟩

/-! ### Remainders -/

/-- Remainders are undefined by zero alone. -/
theorem refusal_modulo (a b : Decimal) :
    refusal (a.modulo b) = if b.toRat = 0 then some .divisionByZero else none := by
  simp only [toRat_eq_zero_iff, modulo, isZero, beq_iff_eq]
  split_ifs <;> rfl

/-- The remainder of what can be aligned is computed. -/
theorem exists_modulo {a b : Decimal} (h : a.Aligned b) (hb : b.toRat ≠ 0) :
    ∃ c, a.modulo b = .ok c := by
  obtain ⟨hreachA, hreachB⟩ := h
  have hzeroB : b.isZero = false := beq_false_of_ne (mt (toRat_eq_zero_iff b).2 hb)
  simp only [modulo, hzeroB, hreachA, hreachB, Bool.not_true, Bool.or_self, Bool.false_eq_true,
    if_false]
  split_ifs with hzeroA hsmall hlong
  · exact ⟨_, rfl⟩
  · exact ⟨_, rfl⟩
  · -- A quotient has no more digits than the dividend at the smaller exponent.
    have hcount := Digits.count_pos b.coefficient
    rw [Bool.not_eq_true] at hzeroA
    rw [reaches, hzeroA, Bool.false_or, decide_eq_true_iff] at hreachA
    simp only [adjusted, width] at hlong hreachA
    omega
  · exact ⟨_, rfl⟩

/-- A remainder is what is left of the dividend when a whole multiple of the divisor is taken away,
the quotient cut towards zero. -/
theorem modulo_holds {a b r : Decimal} (h : a.modulo b = .ok r) :
    r.exponent = min a.exponent b.exponent ∧
      a.toRat - r.toRat = b.toRat * truncate (a.toRat / b.toRat) ∧ |r.toRat| < |b.toRat| ∧
        (r.toRat = 0 ∨ SignType.sign r.toRat = SignType.sign a.toRat) := by
  obtain ⟨hb, hvalue⟩ := toRat_modulo h
  have hmultiple : a.toRat - r.toRat = b.toRat * truncate (a.toRat / b.toRat) := by
    rw [hvalue, remainder]
    ring
  rw [hvalue] at hmultiple ⊢
  exact ⟨(modulo_cases h).1, hmultiple, (remainder_bounds a.toRat hb).1, sign_remainder a.toRat hb⟩

/-! ### All four -/

/-- What the numbers of the operands make of the number of a result. -/
theorem rational_of_run {settings : Settings} {operation : Operation} {a b c : Decimal}
    (h : operation.run settings a b = .ok c) (ha : a.inRange) (hb : b.inRange)
    (hdivide : operation ≠ .divide) (hpower : operation ≠ .power)
    (hfits : operation = .multiply → Fits (a.toRat * b.toRat) (a.exponent + b.exponent)) :
    operation.rational a.toRat b.toRat = some c.toRat := by
  cases operation with
  | add => exact congrArg some (add_holds ha hb h).toRat_eq.symm
  | subtract => exact congrArg some (subtract_holds ha hb h).toRat_eq.symm
  | multiply =>
    obtain ⟨c', hc', hholds⟩ := exists_multiply (hfits rfl)
    obtain rfl := Except.ok.inj (hc'.symm.trans h)
    exact congrArg some hholds.toRat_eq.symm
  | divide => exact absurd rfl hdivide
  | modulo =>
    obtain ⟨hzero, hvalue⟩ := toRat_modulo h
    rw [Operation.rational, if_neg hzero, hvalue]
  | power => exact absurd rfl hpower

/-- **Results are exact and stand where they should.** Whenever there is a sum, a difference or a
remainder, and whenever a product fits, it is that of the numbers; only a remainder by zero is
undefined; what can be aligned and fits is computed; and other ways to write the operands give a
result of the same number. -/
theorem results_exact {a b : Decimal} (ha : a.inRange) (hb : b.inRange) :
    (∀ c, a.add b = .ok c → c.Holds (a.toRat + b.toRat) (min a.exponent b.exponent)) ∧
      (∀ c, a.subtract b = .ok c → c.Holds (a.toRat - b.toRat) (min a.exponent b.exponent)) ∧
      (Fits (a.toRat * b.toRat) (a.exponent + b.exponent) → ∃ c, a.multiply b = .ok c ∧
        c.Holds (a.toRat * b.toRat) (a.exponent + b.exponent)) ∧
      (refusal (a.modulo b) = some .divisionByZero ↔ b.toRat = 0) ∧
      (∀ r, a.modulo b = .ok r → r.exponent = min a.exponent b.exponent ∧
        a.toRat - r.toRat = b.toRat * truncate (a.toRat / b.toRat) ∧ |r.toRat| < |b.toRat| ∧
          (r.toRat = 0 ∨ SignType.sign r.toRat = SignType.sign a.toRat)) ∧
      (a.Aligned b →
        (Fits (a.toRat + b.toRat) (min a.exponent b.exponent) → ∃ c, a.add b = .ok c) ∧
        (Fits (a.toRat - b.toRat) (min a.exponent b.exponent) → ∃ c, a.subtract b = .ok c) ∧
        (b.toRat ≠ 0 → ∃ r, a.modulo b = .ok r)) ∧
      ∀ a' b' : Decimal, a'.inRange → b'.inRange → a'.toRat = a.toRat → b'.toRat = b.toRat →
        ∀ (settings : Settings) (operation : Operation) (c c' : Decimal), operation ≠ .divide →
          operation ≠ .power →
          (operation = .multiply → Fits (a.toRat * b.toRat) (a.exponent + b.exponent) ∧
            Fits (a.toRat * b.toRat) (a'.exponent + b'.exponent)) →
          operation.run settings a b = .ok c → operation.run settings a' b' = .ok c' →
            c'.toRat = c.toRat := by
  refine ⟨fun c => add_holds ha hb, fun c => subtract_holds ha hb, exists_multiply,
    by simp [refusal_modulo], fun r => modulo_holds, fun haligned => ⟨exists_add haligned,
      exists_subtract haligned, exists_modulo haligned⟩, ?_⟩
  intro a' b' ha' hb' hvalueA hvalueB settings operation c c' hdivide hpower hfits h h'
  have hvalue := rational_of_run h ha hb hdivide hpower fun hm => (hfits hm).1
  have hvalue' := rational_of_run h' ha' hb' hdivide hpower fun hm => by
    rw [hvalueA, hvalueB]
    exact (hfits hm).2
  rw [hvalueA, hvalueB, hvalue] at hvalue'
  exact (Option.some.inj hvalue').symm

/-- A negative dividend, written in two ways, leaves the same negative remainder. -/
theorem results_exact_remainder :
    modulo ⟨true, 75, -1⟩ ⟨false, 2, 0⟩ = .ok ⟨true, 15, -1⟩ ∧
      modulo ⟨true, 7500, -3⟩ ⟨false, 2, 0⟩ = .ok ⟨true, 1500, -3⟩ ∧
      (⟨true, 75, -1⟩ : Decimal).toRat - (⟨true, 15, -1⟩ : Decimal).toRat =
        (⟨false, 2, 0⟩ : Decimal).toRat *
          truncate ((⟨true, 75, -1⟩ : Decimal).toRat / (⟨false, 2, 0⟩ : Decimal).toRat) ∧
      (⟨true, 1500, -3⟩ : Decimal).toRat = (⟨true, 15, -1⟩ : Decimal).toRat := by
  have hmodulo : modulo ⟨true, 75, -1⟩ ⟨false, 2, 0⟩ = .ok ⟨true, 15, -1⟩ := by decide
  have hmodulo' : modulo ⟨true, 7500, -3⟩ ⟨false, 2, 0⟩ = .ok ⟨true, 1500, -3⟩ := by decide
  have hsame : (⟨true, 7500, -3⟩ : Decimal).toRat = (⟨true, 75, -1⟩ : Decimal).toRat := by
    norm_num [toRat, signed]
  obtain ⟨-, -, -, -, hremainder, -, hother⟩ :=
    results_exact (show (⟨true, 75, -1⟩ : Decimal).inRange by decide)
      (show (⟨false, 2, 0⟩ : Decimal).inRange by decide)
  exact ⟨hmodulo, hmodulo', (hremainder _ hmodulo).2.1,
    hother ⟨true, 7500, -3⟩ ⟨false, 2, 0⟩ (by decide) (by decide) hsame rfl {} .modulo _ _
      (by simp) (by simp) (by simp) hmodulo hmodulo'⟩

end Decimal
end Reckoner
