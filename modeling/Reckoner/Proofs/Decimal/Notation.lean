/-
# Digits in full

Written scientifically, a decimal has an exponent behind its digits if its own exponent is positive
or its leading digit comes behind the sixth place (`mem_scientific_iff`). An explicit decimal is
written out (`WrittenOut`): its exponent is not positive, and every digit of an integer stands in
its coefficient.

A quotient loses the zeros at its end, and that never brings an exponent into its text
(`Positional`): an integer stands there digit by digit, and another number has an exponent only if
it is so small that each of its decimals has one, whatever zeros they end in. So it is with powers
by negative numbers, which are quotients too (`positional_of_run`).

| quotient | is | and is written | not |
| --- | --- | --- | --- |
| `1000 / 10` | `100` | `100` | `1E+2` |
| `1 / 4` | `25E-2` | `0.25` | `0.2500` |
| `0.0 / 7` | `0` | `0` | `0E-40` |
-/

import Reckoner.Proofs.Decimal.Canonical
import Reckoner.Proofs.Decimal.IntegerPower

namespace Reckoner
namespace Decimal

/-! ### Exponents in texts -/

/-- The characters around the point are digits. -/
theorem isDigit_of_mem_parts (x : Decimal) :
    (∀ c ∈ x.parts.1, c.isDigit) ∧ ∀ c ∈ x.parts.2, c.isDigit := by
  have hdigits : ∀ n : ℕ, ∀ c ∈ Nat.toDigits 10 n, c.isDigit := fun n c hc =>
    Nat.isDigit_of_mem_toDigits (by decide) (by decide) hc
  rcases Int.lt_or_le x.exponent 0 with hneg | hnonneg
  · obtain ⟨places, hplaces⟩ := Int.eq_ofNat_of_zero_le (show 0 ≤ -x.exponent by omega)
    rw [parts_eq_of_neg (show x.exponent = -(places : ℤ) by omega) (by omega)]
    exact ⟨hdigits _, fun c hc => Digits.isDigit_of_mem_lowDigits hc⟩
  · obtain ⟨k, hk⟩ := Int.eq_ofNat_of_zero_le hnonneg
    rw [parts_eq_of_nonneg hk]
    exact ⟨hdigits _, List.forall_mem_nil _⟩

/-- The text without an exponent is the numeral of the parts. -/
theorem toList_plain (x : Decimal) : x.plain.toList = numeral x.negative x.parts.1 x.parts.2 := by
  rw [plain, show x.parts = (x.parts.1, x.parts.2) from rfl]
  simp only [assemble, String.toList_ofList, numeral, Token.pointed, List.append_assoc]

/-- All digits are written without an exponent. -/
theorem not_mem_plain (x : Decimal) : 'E' ∉ x.plain.toList := by
  intro h
  rw [toList_plain] at h
  obtain ⟨hwhole, hfraction⟩ := x.isDigit_of_mem_parts
  exact (of_isNumeralChar (isNumeralChar_of_mem hwhole hfraction h)).2.2.2.2 rfl

/-- **When the scientific form has an exponent.** -/
theorem mem_scientific_iff (x : Decimal) :
    'E' ∈ x.scientific.toList ↔ 0 < x.exponent ∨ x.adjusted < -6 := by
  rw [← not_le, ← not_le (b := x.adjusted), ← not_and_or, scientific]
  by_cases h : x.exponent ≤ 0 ∧ -6 ≤ x.adjusted
  · rw [if_pos h]
    exact iff_of_false x.not_mem_plain (not_not.2 h)
  · rw [if_neg h]
    refine iff_of_true ?_ h
    have hsign : 'E' ∈ (if x.adjusted < 0 then "E" else "E+").toList := by split_ifs <;> decide
    simp only [String.toList_append, List.mem_append]
    exact .inl (.inr hsign)

/-- The leading digit of a greater number is no further behind. -/
theorem adjusted_le_of_abs_le {x y : Decimal} (hx : x.coefficient ≠ 0)
    (h : |x.toRat| ≤ |y.toRat|) : x.adjusted ≤ y.adjusted := by
  have hpow : (10 : ℚ) ^ x.adjusted < 10 ^ (y.adjusted + 1) :=
    calc (10 : ℚ) ^ x.adjusted ≤ |x.toRat| := pow_adjusted_le hx
      _ ≤ |y.toRat| := h
      _ < 10 ^ (y.adjusted + 1) := y.abs_toRat_lt
  exact Int.lt_add_one_iff.1 ((zpow_lt_zpow_iff_right₀ (by norm_num)).1 hpow)

/-- The place of the leading digit is that of the number. -/
theorem adjusted_eq_of_toRat_eq {x y : Decimal} (hx : x.coefficient ≠ 0) (h : x.toRat = y.toRat) :
    x.adjusted = y.adjusted := by
  have hy : y.coefficient ≠ 0 := by
    rwa [Ne, ← toRat_eq_zero_iff, ← h, toRat_eq_zero_iff]
  exact le_antisymm (adjusted_le_of_abs_le hx (congrArg abs h).le)
    (adjusted_le_of_abs_le hy (congrArg abs h).ge)

/-! ### Decimals that are written out -/

/-- A decimal of the range without a positive exponent. If it is an integer, all its digits are in
the coefficient, in front of as many zeros as there are places. -/
structure WrittenOut (x : Decimal) : Prop where
  inRange : x.inRange
  exponent_le : x.exponent ≤ 0
  coefficient_eq : ∀ n : ℤ, x.toRat = n → x.coefficient = n.natAbs * 10 ^ (-x.exponent).toNat
  digits : ∀ n : ℤ, x.toRat = n → Digits.toChars n.natAbs <+: Digits.toChars x.coefficient

/-- The coefficient of an integer without a positive exponent. -/
theorem coefficient_of_integral {x : Decimal} (he : x.exponent ≤ 0) {n : ℤ} (h : x.toRat = n) :
    x.coefficient = n.natAbs * 10 ^ (-x.exponent).toNat := by
  obtain ⟨k, hk⟩ := Int.eq_ofNat_of_zero_le (show 0 ≤ -x.exponent by omega)
  have habs : (n.natAbs : ℚ) = x.coefficient * 10 ^ x.exponent := by
    rw [← abs_toRat, h, ← Int.cast_abs, Int.abs_eq_natAbs, Int.cast_natCast]
  rw [show x.exponent = -(k : ℤ) by omega, zpow_neg, zpow_natCast, ← div_eq_mul_inv,
    eq_div_iff (by positivity)] at habs
  rw [hk, Int.toNat_natCast]
  exact_mod_cast habs.symm

/-- **Explicit decimals are written out.** -/
theorem Explicit.writtenOut {x : Decimal} (h : x.Explicit) : x.WrittenOut := by
  refine ⟨h.inRange, h.exponent_le, fun n hn => coefficient_of_integral h.exponent_le hn,
    fun n hn => ?_⟩
  rw [coefficient_of_integral h.exponent_le hn]
  exact Digits.toChars_prefix_mul_pow _ _

/-! ### Quotients -/

/-- How a quotient is written: an integer by its digits alone, and any other number with places, of
which the last is no zero. It is written with an exponent only if all decimals of the same number
are. -/
structure Positional (x : Decimal) : Prop where
  trimmed : x.Trimmed
  integral : ∀ n : ℤ, x.toRat = n →
    x.scientific = (if x.negative then "-" else "") ++ Digits.toText n.natAbs
  last : ∀ y : Decimal, y.toRat = x.toRat → 'E' ∈ x.scientific.toList → 'E' ∈ y.scientific.toList

/-- The form of a quotient has no positive exponent. -/
theorem Trimmed.exponent_le {x : Decimal} (h : x.Trimmed) : x.exponent ≤ 0 := by
  cases h with
  | whole _ hexponent => exact hexponent.le
  | places _ hexponent _ => exact hexponent.le

/-- The form of a quotient that is an integer has exponent zero. -/
theorem Trimmed.exponent_eq {x : Decimal} (h : x.Trimmed) (hx : ∃ n : ℤ, x.toRat = n) :
    x.exponent = 0 := by
  cases h with
  | whole _ hexponent => exact hexponent
  | places hintegral _ _ => exact absurd hx hintegral

/-- A trimmed integer is its digits. -/
theorem Trimmed.scientific_eq {x : Decimal} (h : x.Trimmed) {n : ℤ} (hn : x.toRat = n) :
    x.scientific = (if x.negative then "-" else "") ++ Digits.toText n.natAbs := by
  have hexponent := h.exponent_eq ⟨n, hn⟩
  have hcoefficient := coefficient_of_integral h.exponent_le hn
  rw [hexponent, Int.neg_zero, Int.toNat_zero, pow_zero, Nat.mul_one] at hcoefficient
  have hwidth := Digits.count_pos x.coefficient
  have hplain : x.scientific = x.plain := by
    rw [scientific, if_pos ⟨h.exponent_le, by rw [adjusted, width]; omega⟩]
  rw [hplain, plain, parts_eq_of_nonneg (k := 0) hexponent, pow_zero, Nat.mul_one, hcoefficient,
    Digits.toText, Digits.toChars_eq]
  cases x.negative <;> simp [assemble]

/-- **Trimming brings no exponent into a text**: the leading digit stays where it is. -/
theorem Trimmed.positional {x : Decimal} (h : x.Trimmed) : x.Positional := by
  refine ⟨h, fun n hn => h.scientific_eq hn, fun y hy hx => ?_⟩
  have hsmall : x.adjusted < -6 :=
    ((mem_scientific_iff x).1 hx).resolve_left (not_lt.2 h.exponent_le)
  have hne : x.coefficient ≠ 0 := by
    intro hzero
    have hexponent := h.exponent_eq ⟨0, by rw [(toRat_eq_zero_iff x).2 hzero, Int.cast_zero]⟩
    have hwidth := Digits.count_pos x.coefficient
    rw [adjusted, width] at hsmall
    omega
  rw [mem_scientific_iff, ← adjusted_eq_of_toRat_eq hne hy.symm]
  exact .inr hsmall

/-- What is divided is trimmed. -/
theorem trimmed_of_divide {settings : Settings} {a b c : Decimal}
    (h : divide settings a b = .ok c) : c.Trimmed := by
  obtain ⟨-, negative, mode, -, -, rfl⟩ := divide_eq_ok h
  exact trimmed_trimmed _ _ _

/-- A power by a negative number is a quotient. -/
theorem exists_divide_of_power {settings : Settings} {a b c : Decimal}
    (h : power settings a b = .ok c) (hb : b.toRat < 0) : ∃ p, divide settings one p = .ok c := by
  by_cases hinteger : ∃ n : ℤ, b.toRat = n
  · obtain ⟨n, hn⟩ := hinteger
    have hneg : n < 0 := by
      rw [hn] at hb
      exact_mod_cast hb
    simp only [power_eq hn, if_pos hneg] at h
    split_ifs at h
    obtain ⟨p, -, hdivide⟩ := bind_eq_ok_iff.1 h
    exact ⟨p, hdivide⟩
  · rw [power_of_not_integer hinteger] at h
    cases h

/-- **Quotients, and powers by negative numbers, are positional.** -/
theorem positional_of_run {settings : Settings} {operation : Operation} {a b c : Decimal}
    (h : operation.run settings a b = .ok c)
    (hquotient : operation = .divide ∨ operation = .power ∧ b.toRat < 0) : c.Positional := by
  rcases hquotient with rfl | ⟨rfl, hb⟩
  · exact (trimmed_of_divide h).positional
  · obtain ⟨p, hdivide⟩ := exists_divide_of_power h hb
    exact (trimmed_of_divide hdivide).positional

end Decimal
end Reckoner
