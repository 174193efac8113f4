/-
# The text of a number depends on the number alone

A decimal is displayed by rounding its coefficient, writing digits and trimming zeros.
`trimmedText_roundedTo` says what comes of it: the text is `shown places` of the rational number of
the decimal, that is, the digits of its magnitude in units of `10 ^ -places`, rounded half up
(`roundedUnits`), with a point among them. So decimals that are numerically equal have one text,
whatever their exponents and the signs of their zeros.

The digits of that text, read without their point, are the rounded number again
(`toRat_of_shown_digits`).
-/

import Mathlib.Algebra.Order.Floor.Semifield
import Mathlib.Data.List.DropRight
import Mathlib.Data.Rat.Floor
import Reckoner.Decimal.Text
import Reckoner.Proofs.Decimal.Rounding
import Reckoner.Proofs.Decimal.Value

namespace Reckoner

/-- The magnitude of `q` in units of `10 ^ -places`, halves rounded up. -/
def roundedUnits (places : ℕ) (q : ℚ) : ℕ := ⌊|q| * 10 ^ places + 1 / 2⌋₊

/-- `q` rounded to a multiple of `10 ^ -places`, halves away from zero. -/
def roundHalfUp (places : ℕ) (q : ℚ) : ℚ :=
  Decimal.signed (decide (q < 0)) (roundedUnits places q) / 10 ^ places

/-- Rounding a number that is not negative takes its rounded units. -/
theorem roundHalfUp_of_nonneg (places : ℕ) {q : ℚ} (h : 0 ≤ q) :
    roundHalfUp places q = roundedUnits places q / 10 ^ places := by
  rw [roundHalfUp, decide_eq_false (not_lt.2 h), Decimal.signed, if_neg Bool.false_ne_true,
    Int.cast_natCast]

/-- The magnitude of a rounded number is its rounded units. -/
theorem abs_roundHalfUp (places : ℕ) (q : ℚ) :
    |roundHalfUp places q| = roundedUnits places q / 10 ^ places := by
  rw [roundHalfUp, abs_div, abs_of_pos (by positivity : (0 : ℚ) < 10 ^ places), ← Int.cast_abs,
    Int.abs_eq_natAbs, Decimal.natAbs_signed, Int.cast_natCast]

/-- A whole number of units is not rounded. -/
theorem roundedUnits_of_abs_eq {places : ℕ} {q : ℚ} {n : ℕ} (h : |q| = n / 10 ^ places) :
    roundedUnits places q = n := by
  rw [roundedUnits, h, div_mul_cancel₀ _ (by positivity), Nat.floor_eq_iff (by positivity)]
  constructor <;> linarith

/-- A rounded number is not rounded again. -/
@[simp] theorem roundedUnits_roundHalfUp (places : ℕ) (q : ℚ) :
    roundedUnits places (roundHalfUp places q) = roundedUnits places q :=
  roundedUnits_of_abs_eq (abs_roundHalfUp places q)

/-- Rounding moves a number across zero only onto it. -/
theorem roundHalfUp_neg_iff (places : ℕ) (q : ℚ) :
    roundHalfUp places q < 0 ↔ q < 0 ∧ roundedUnits places q ≠ 0 := by
  have hpow : (0 : ℚ) < 10 ^ places := by positivity
  rw [roundHalfUp, div_lt_iff₀ hpow, zero_mul, Int.cast_lt_zero]
  by_cases h : q < 0
  · simp [Decimal.signed, h, Nat.pos_iff_ne_zero]
  · simp [Decimal.signed, h]

namespace Decimal

/-! ### Units -/

/-- The magnitude of the number of a decimal is that of its coefficient. -/
theorem abs_toRat (x : Decimal) : |x.toRat| = x.coefficient * 10 ^ x.exponent := by
  rw [toRat, abs_mul, abs_of_pos (zpow_pos (by norm_num : (0 : ℚ) < 10) _), ← Int.cast_abs,
    Int.abs_eq_natAbs, natAbs_signed, Int.cast_natCast]

/-- The number of a decimal is negative if its sign is and it is not zero. -/
theorem toRat_neg_iff (x : Decimal) : x.toRat < 0 ↔ x.negative ∧ x.coefficient ≠ 0 := by
  have hpow : (0 : ℚ) < 10 ^ x.exponent := zpow_pos (by norm_num) _
  rw [toRat, ← neg_pos, ← neg_mul, mul_pos_iff_of_pos_right hpow, neg_pos, Int.cast_lt_zero, signed]
  cases x.negative <;> simp [Nat.pos_iff_ne_zero]

/-- The sign of a decimal is that of its number, unless that is zero. -/
theorem decide_toRat_neg {x : Decimal} (h : x.coefficient ≠ 0) :
    decide (x.toRat < 0) = x.negative := by
  rw [Bool.eq_iff_iff, decide_eq_true_iff, toRat_neg_iff, and_iff_left h]

/-- In units fine enough for its exponent, a decimal is a whole number. -/
theorem abs_toRat_eq_div (x : Decimal) {places : ℕ} (h : -(places : ℤ) ≤ x.exponent) :
    |x.toRat| = ((x.coefficient * 10 ^ (x.exponent + places).toNat : ℕ) : ℚ) / 10 ^ places := by
  rw [abs_toRat, eq_div_iff (by positivity), Nat.cast_mul, mul_assoc, Nat.cast_pow, Nat.cast_ofNat,
    ← zpow_natCast, ← zpow_natCast, ← zpow_add₀ (by norm_num), Int.toNat_of_nonneg (by omega)]

/-- The coefficient of a decimal that was rounded half up counts its rounded units. -/
theorem coefficient_roundedTo (x : Decimal) {places : ℕ} (h : x.exponent < -places) :
    (x.roundedTo (-places)).coefficient = roundedUnits places x.toRat := by
  obtain ⟨k, hk⟩ := Int.eq_ofNat_of_zero_le (show 0 ≤ -(places : ℤ) - x.exponent by omega)
  have hexponent : x.exponent = -(places : ℤ) - k := by omega
  have hunits : |x.toRat| * 10 ^ places + 1 / 2 =
      ((2 * x.coefficient + 10 ^ k : ℕ) : ℚ) / ((2 * 10 ^ k : ℕ) : ℚ) := by
    rw [abs_toRat, hexponent, zpow_sub₀ (by norm_num), zpow_neg, zpow_natCast, zpow_natCast]
    push_cast
    field_simp
  rw [roundedTo, rounded_of_lt h, hk, roundedUnits, hunits, Nat.floor_div_eq_div]
  exact Rounding.halfUp_dropDigits _ _ _

/-! ### Digits with a point -/

/-- The digits behind the point of `n` units of `10 ^ -places`, without trailing zeros. -/
def shownFraction (places n : ℕ) : List Char :=
  Text.dropEndWhile (· == '0') (Digits.lowDigits places n)

/-- The text of a number, rounded half up to a number of places. -/
def shown (places : ℕ) (q : ℚ) : String :=
  assemble (q < 0 && roundedUnits places q != 0)
    (Nat.toDigits 10 (roundedUnits places q / 10 ^ places))
    (shownFraction places (roundedUnits places q))

/-- Zeros at the end are dropped. -/
theorem dropEndWhile_append_zeros (cs : List Char) (k : ℕ) :
    Text.dropEndWhile (· == '0') (cs ++ List.replicate k '0') =
      Text.dropEndWhile (· == '0') cs := by
  induction k with
  | zero => rw [List.replicate_zero, List.append_nil]
  | succ k ih =>
    rw [List.replicate_succ', ← List.append_assoc]
    exact (List.rdropWhile_concat_pos _ _ _ rfl).trans ih

/-- Only zeros are dropped. -/
theorem exists_zeros_of_dropEndWhile (cs : List Char) :
    ∃ k, Text.dropEndWhile (· == '0') cs ++ List.replicate k '0' = cs := by
  induction cs using List.reverseRecOn with
  | nil => exact ⟨0, rfl⟩
  | append_singleton cs c ih =>
    by_cases hc : c = '0'
    · obtain ⟨k, hk⟩ := ih
      have hdrop : Text.dropEndWhile (· == '0') (cs ++ ['0']) = Text.dropEndWhile (· == '0') cs :=
        List.rdropWhile_concat_pos _ _ _ rfl
      exact ⟨k + 1, by rw [hc, hdrop, List.replicate_succ', ← List.append_assoc, hk]⟩
    · have hkeep : Text.dropEndWhile (· == '0') (cs ++ [c]) = cs ++ [c] :=
        List.rdropWhile_concat_neg _ _ _ (by simpa using hc)
      exact ⟨0, by rw [hkeep, List.replicate_zero, List.append_nil]⟩

/-- Zeros at the end are not shown. -/
theorem shownFraction_mul_pow (i j n : ℕ) :
    shownFraction (i + j) (n * 10 ^ j) = shownFraction i n := by
  rw [shownFraction, Digits.lowDigits_mul_pow, dropEndWhile_append_zeros, shownFraction]

/-- There is no fraction if the units make up a whole number. -/
theorem shownFraction_eq_nil_iff (places n : ℕ) :
    shownFraction places n = [] ↔ n % 10 ^ places = 0 := by
  constructor
  · intro h
    obtain ⟨k, hk⟩ := exists_zeros_of_dropEndWhile (Digits.lowDigits places n)
    rw [← Digits.ofDigitChars_lowDigits, ← hk]
    change Nat.ofDigitChars 10 (shownFraction places n ++ _) 0 = 0
    rw [h, List.nil_append, Nat.ofDigitChars_replicate_zero, Nat.mul_zero]
  · intro h
    rw [shownFraction, ← Digits.lowDigits_mod, h, Digits.lowDigits_zero]
    exact dropEndWhile_append_zeros [] places

/-- Only zero is written as the digit zero. -/
theorem toDigits_eq_zero_iff (n : ℕ) : Nat.toDigits 10 n = ['0'] ↔ n = 0 := by
  constructor
  · intro h
    rw [← Nat.ofDigitChars_ten_toDigits (n := n), h]; rfl
  · rintro rfl
    exact Nat.toDigits_zero 10

/-- The digits of a decimal without places. -/
theorem parts_eq_of_nonneg {x : Decimal} {k : ℕ} (h : x.exponent = k) :
    x.parts = (Nat.toDigits 10 (x.coefficient * 10 ^ k), []) := by
  rw [parts, if_pos (by omega), h, Int.toNat_natCast, Digits.toChars_eq, isZero]
  by_cases hc : x.coefficient = 0
  · rw [hc, Nat.zero_mul]; rfl
  · have hdigits := Digits.toDigits_append_lowDigits (Nat.pos_of_ne_zero hc) k 0
    rw [Digits.lowDigits_zero, Nat.zero_mod, Nat.add_zero] at hdigits
    rw [beq_false_of_ne hc, if_neg Bool.false_ne_true, hdigits]

/-- The digits of a decimal around its point. -/
theorem parts_eq_of_neg {x : Decimal} {places : ℕ} (h : x.exponent = -(places : ℤ))
    (hpos : 0 < places) :
    x.parts = (Nat.toDigits 10 (x.coefficient / 10 ^ places),
      Digits.lowDigits places x.coefficient) := by
  have hpadded : List.replicate (places + 1 - (Nat.toDigits 10 x.coefficient).length) '0' ++
      Nat.toDigits 10 x.coefficient =
      Nat.toDigits 10 (x.coefficient / 10 ^ places) ++ Digits.lowDigits places x.coefficient := by
    by_cases hc : x.coefficient < 10 ^ places
    · have hlen := (Nat.length_toDigits_le_iff (by decide) hpos).2 hc
      rw [Nat.div_eq_of_lt hc, Nat.toDigits_zero, Digits.lowDigits_eq_replicate_append hlen,
        Nat.succ_sub hlen, List.replicate_succ]
      rfl
    · have hlen := mt (Nat.length_toDigits_le_iff (by decide) hpos).1 hc
      have hup : 0 < x.coefficient / 10 ^ places := Nat.div_pos (by omega) (by positivity)
      rw [Digits.toDigits_append_lowDigits hup, Nat.div_add_mod', Nat.sub_eq_zero_of_le (by omega)]
      rfl
  rw [parts, if_neg (by omega), h, Int.neg_neg, Int.toNat_natCast, Digits.toChars_eq]
  simp only [hpadded, List.length_append, Digits.length_lowDigits, Nat.add_sub_cancel,
    List.splitAt_eq, List.take_left, List.drop_left]

/-- **Trimming zeros writes units of any fineness that the exponent allows.** -/
theorem trimmedText_eq (x : Decimal) {places n : ℕ} (h : -(places : ℤ) ≤ x.exponent)
    (hn : x.coefficient * 10 ^ (x.exponent + places).toNat = n) :
    x.trimmedText = assemble (x.negative && n != 0) (Nat.toDigits 10 (n / 10 ^ places))
      (shownFraction places n) := by
  have hparts : (x.parts.1, Text.dropEndWhile (· == '0') x.parts.2) =
      (Nat.toDigits 10 (n / 10 ^ places), shownFraction places n) := by
    rcases Int.lt_or_le x.exponent 0 with hneg | hnonneg
    · obtain ⟨p, hp⟩ := Int.eq_ofNat_of_zero_le (show 0 ≤ -x.exponent by omega)
      obtain ⟨j, rfl⟩ := Nat.exists_eq_add_of_le (show p ≤ places by omega)
      rw [show (x.exponent + (p + j : ℕ)).toNat = j by omega] at hn
      rw [parts_eq_of_neg (show x.exponent = -(p : ℤ) by omega) (by omega), ← hn,
        shownFraction_mul_pow, pow_add, Nat.mul_div_mul_right _ _ (by positivity)]
      rfl
    · obtain ⟨k, hk⟩ := Int.eq_ofNat_of_zero_le hnonneg
      rw [show (x.exponent + places).toNat = k + places by omega, pow_add, ← Nat.mul_assoc] at hn
      have hnil : shownFraction (0 + places) (x.coefficient * 10 ^ k * 10 ^ places) = [] :=
        shownFraction_mul_pow 0 places _
      rw [Nat.zero_add, hn] at hnil
      rw [parts_eq_of_nonneg hk, hnil, ← hn, Nat.mul_div_cancel _ (by positivity)]
      rfl
  obtain ⟨hwhole, hfraction⟩ := Prod.mk.inj hparts
  have hzero : (Nat.toDigits 10 (n / 10 ^ places) == ['0'] && (shownFraction places n).isEmpty) =
      (n == 0) := by
    have hdiv := Nat.div_add_mod n (10 ^ places)
    rw [Bool.eq_iff_iff, Bool.and_eq_true, beq_iff_eq, toDigits_eq_zero_iff, List.isEmpty_iff,
      shownFraction_eq_nil_iff, beq_iff_eq]
    constructor
    · rintro ⟨h₁, h₂⟩
      rw [h₁, h₂] at hdiv
      omega
    · rintro rfl
      exact ⟨Nat.zero_div _, Nat.zero_mod _⟩
  rw [trimmedText, show x.parts = (x.parts.1, x.parts.2) from rfl]
  simp only [hwhole, hfraction, hzero, bne]

/-- **The text of a decimal, rounded to places, is that of its number.** -/
theorem trimmedText_roundedTo (x : Decimal) (places : ℕ) :
    (x.roundedTo (-places)).trimmedText = shown places x.toRat := by
  have hsign : (x.negative && roundedUnits places x.toRat != 0) =
      (decide (x.toRat < 0) && roundedUnits places x.toRat != 0) := by
    by_cases hn : roundedUnits places x.toRat = 0
    · rw [hn, bne_self_eq_false, Bool.and_false, Bool.and_false]
    · have hc : x.coefficient ≠ 0 := by
        intro hc
        rw [(toRat_eq_zero_iff x).2 hc] at hn
        exact hn (roundedUnits_of_abs_eq (by simp))
      rw [decide_toRat_neg hc]
  rcases Int.lt_or_le x.exponent (-places) with h | h
  · have hexponent : (x.roundedTo (-places)).exponent = -places := by
      rw [roundedTo, rounded_of_lt h]
    have hnegative : (x.roundedTo (-places)).negative = x.negative := by
      rw [roundedTo, rounded_of_lt h]
    have hunits : (x.roundedTo (-places)).coefficient *
        10 ^ ((x.roundedTo (-places)).exponent + places).toNat = roundedUnits places x.toRat := by
      rw [hexponent, Int.add_left_neg, Int.toNat_zero, pow_zero, Nat.mul_one,
        coefficient_roundedTo x h]
    rw [trimmedText_eq _ hexponent.ge hunits, hnegative, hsign, shown]
  · have hunits := roundedUnits_of_abs_eq (abs_toRat_eq_div x h)
    rw [roundedTo, rounded_of_le h, trimmedText_eq x h hunits.symm, hsign, shown]

/-- **Equal numbers are displayed alike.** -/
theorem display_eq (x : Decimal) : x.display = shown displayPlaces x.toRat :=
  trimmedText_roundedTo x displayPlaces

/-- **Equal numbers have equal texts**, whatever their coefficients and exponents. -/
theorem display_eq_of_toRat_eq {x y : Decimal} (h : x.toRat = y.toRat) : x.display = y.display := by
  rw [display_eq, display_eq, h]

/-- Displaying what was rounded for display changes nothing. -/
theorem shown_roundHalfUp (places : ℕ) (q : ℚ) :
    shown places (roundHalfUp places q) = shown places q := by
  have hsign : (decide (roundHalfUp places q < 0) && roundedUnits places q != 0) =
      (decide (q < 0) && roundedUnits places q != 0) := by
    rw [Bool.eq_iff_iff, Bool.and_eq_true, Bool.and_eq_true, decide_eq_true_iff,
      decide_eq_true_iff, roundHalfUp_neg_iff, bne_iff_ne, and_assoc, and_self]
  rw [shown, roundedUnits_roundHalfUp, hsign, shown]

/-! ### Reading the digits back -/

/-- What is shown behind the point are digits. -/
theorem isDigit_of_mem_shownFraction {places n : ℕ} {c : Char} (h : c ∈ shownFraction places n) :
    c.isDigit :=
  Digits.isDigit_of_mem_lowDigits ((List.rdropWhile_prefix _ _).mem h)

/-- The digits around the point are those of the units without the trailing zeros. -/
theorem exists_ofChars_shown (places n : ℕ) :
    ∃ k, (shownFraction places n).length + k = places ∧
      Digits.ofChars (Nat.toDigits 10 (n / 10 ^ places) ++ shownFraction places n) * 10 ^ k =
        n := by
  obtain ⟨k, hk⟩ := exists_zeros_of_dropEndWhile (Digits.lowDigits places n)
  have hdigits : ∀ c ∈ Nat.toDigits 10 (n / 10 ^ places) ++ shownFraction places n, c.isDigit := by
    intro c hc
    rcases List.mem_append.1 hc with hc | hc
    · exact Nat.isDigit_of_mem_toDigits (by decide) (by decide) hc
    · exact isDigit_of_mem_shownFraction hc
  have hlength := congrArg List.length hk
  rw [List.length_append, List.length_replicate, Digits.length_lowDigits] at hlength
  refine ⟨k, hlength, ?_⟩
  have hall : Nat.ofDigitChars 10
      (Nat.toDigits 10 (n / 10 ^ places) ++ Digits.lowDigits places n) 0 = n := by
    rw [Nat.ofDigitChars_append, Nat.ofDigitChars_ten_toDigits,
      Nat.ofDigitChars_eq_ofDigitChars_zero, Digits.length_lowDigits,
      Digits.ofDigitChars_lowDigits, Nat.div_add_mod]
  rw [← hk, ← List.append_assoc, Nat.ofDigitChars_append, Nat.ofDigitChars_replicate_zero] at hall
  rw [Digits.ofChars_eq hdigits, Nat.mul_comm]
  exact hall

/-- No more places are shown than there are. -/
theorem length_shownFraction_le (places n : ℕ) : (shownFraction places n).length ≤ places := by
  obtain ⟨k, hk, -⟩ := exists_ofChars_shown places n
  omega

/-- **The digits that are displayed write the rounded number.** -/
theorem toRat_of_shown_digits (negative : Bool) (places n : ℕ) :
    toRat ⟨negative, Digits.ofChars (Nat.toDigits 10 (n / 10 ^ places) ++ shownFraction places n),
      -((shownFraction places n).length : ℤ)⟩ = signed negative n / 10 ^ places := by
  obtain ⟨k, hk, hn⟩ := exists_ofChars_shown places n
  generalize Digits.ofChars _ = m at hn ⊢
  generalize (shownFraction places n).length = l at hk ⊢
  rw [toRat, eq_div_iff (by positivity), ← hn, ← hk, signed_mul, zpow_neg, zpow_natCast, pow_add]
  push_cast
  field_simp

/-- The decimal that the text of a number that is not negative writes. -/
def reread (x : Decimal) : Decimal :=
  let n := roundedUnits displayPlaces x.toRat
  ⟨false,
    Digits.ofChars (Nat.toDigits 10 (n / 10 ^ displayPlaces) ++ shownFraction displayPlaces n),
    -((shownFraction displayPlaces n).length : ℤ)⟩

/-- The decimal that the text writes has the rounded number. -/
theorem toRat_reread {x : Decimal} (hsign : 0 ≤ x.toRat) :
    x.reread.toRat = roundHalfUp displayPlaces x.toRat := by
  rw [reread, toRat_of_shown_digits, roundHalfUp_of_nonneg _ hsign]
  rfl

/-- What a text writes is displayed as the text. -/
theorem display_reread {x : Decimal} (hsign : 0 ≤ x.toRat) : x.reread.display = x.display := by
  rw [display_eq, toRat_reread hsign, shown_roundHalfUp, ← display_eq]

/-- The digits that are displayed are within the range if the units are. -/
theorem inRange_of_shown_digits (negative : Bool) {places n j : ℕ} (hplaces : places ≤ 1000000)
    (hj : 0 < j) (hprecision : j ≤ precision) (hn : n < 10 ^ j) :
    inRange ⟨negative,
      Digits.ofChars (Nat.toDigits 10 (n / 10 ^ places) ++ shownFraction places n),
      -((shownFraction places n).length : ℤ)⟩ := by
  obtain ⟨k, hk, hm⟩ := exists_ofChars_shown places n
  generalize Digits.ofChars _ = m at hm ⊢
  generalize (shownFraction places n).length = l at hk ⊢
  have hle : m ≤ n := hm ▸ Nat.le_mul_of_pos_right m (by positivity)
  have hcount : Digits.count m ≤ j := (Digits.count_le_iff hj).2 (by omega)
  refine inRange_of_places negative (hcount.trans hprecision) ?_
  rw [precision]
  omega

/-- The most digits before the point of the numbers that are considered here. Far fewer than a
decimal can hold, so that there is room for those behind the point. -/
def wholeDigits : ℕ := 10 ^ 17

/-- The units of a number that is not too large have its digits, its places and one for rounding. -/
theorem roundedUnits_lt {q : ℚ} (h : |q| < 10 ^ wholeDigits) (places : ℕ) :
    roundedUnits places q < 10 ^ (wholeDigits + places + 1) := by
  refine (Nat.floor_lt (by positivity)).2 ?_
  have hone : (1 : ℚ) ≤ 10 ^ wholeDigits * 10 ^ places :=
    one_le_mul_of_one_le_of_one_le (one_le_pow₀ (by norm_num)) (one_le_pow₀ (by norm_num))
  have hmul := mul_lt_mul_of_pos_right h (show (0 : ℚ) < 10 ^ places by positivity)
  rw [Nat.cast_pow, Nat.cast_ofNat, pow_succ, pow_add]
  linarith

/-- A decimal can hold the digits that are displayed of a number that is not too large. -/
theorem inRange_shown {q : ℚ} (h : |q| < 10 ^ wholeDigits) {places : ℕ} (hplaces : places ≤ 999999)
    (negative : Bool) : inRange ⟨negative,
      Digits.ofChars (Nat.toDigits 10 (roundedUnits places q / 10 ^ places) ++
        shownFraction places (roundedUnits places q)),
      -((shownFraction places (roundedUnits places q)).length : ℤ)⟩ := by
  have hprecision : wholeDigits + places + 1 ≤ precision := by
    rw [wholeDigits, precision]
    omega
  exact inRange_of_shown_digits negative (by omega) (Nat.succ_pos _) hprecision
    (roundedUnits_lt h places)

end Decimal
end Reckoner
