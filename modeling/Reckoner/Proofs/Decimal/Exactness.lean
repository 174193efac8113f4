/-
# How exact arithmetic is

Sums, differences and remainders of decimals are exact. A product or a whole power is exact as well
if it is a multiple of `10 ^ lowest` (`Resolved`). A finer one is rounded there, and if it is small
enough it is zero. What the operations should compute is said on rational numbers
(`Operation.rational`), and where that is resolved they do (`rational_run`).

A power goes product by product, but what is resolved is not rounded on the way: without the zeros
at its end, the base has so few places that none of the products is below `10 ^ lowest`
(`toRat_raise`).

A quotient is never exact by itself, so neither it nor a power by a negative number has a place
here.
-/

import Mathlib.Data.Nat.Prime.Basic
import Reckoner.Proofs.Decimal.Padding

namespace Reckoner

/-- A number cut to an integer, towards zero. -/
def truncate (q : ℚ) : ℤ := if q < 0 then ⌈q⌉ else ⌊q⌋

/-- The remainder of a quotient cut towards zero. -/
def remainder (a b : ℚ) : ℚ := a - truncate (a / b) * b

/-- Cutting takes off a part of the same sign. -/
theorem truncate_eq {q f : ℚ} {k : ℤ} (h : q = k + f) (hlt : |f| < 1) (hsign : 0 ≤ q * f) :
    truncate q = k := by
  rw [abs_lt] at hlt
  rw [truncate]
  split_ifs with hneg
  · have hf : f ≤ 0 := by
      by_contra! hpos
      exact absurd (mul_neg_of_neg_of_pos hneg hpos) (not_lt.2 hsign)
    exact Int.ceil_eq_iff.2 ⟨by linarith, by linarith⟩
  · have hf : 0 ≤ f := by
      by_contra! hf
      -- Then the number is zero, and an integer would lie between zero and one.
      have hq : q = 0 := by nlinarith
      have hk : (0 : ℚ) < k ∧ (k : ℚ) < 1 := ⟨by linarith, by linarith⟩
      have hint : 0 < k ∧ k < 1 := by exact_mod_cast hk
      omega
    exact Int.floor_eq_iff.2 ⟨by linarith, by linarith⟩

/-- What cutting takes off is less than one and has the sign of the number. -/
theorem sub_truncate (q : ℚ) : |q - truncate q| < 1 ∧ 0 ≤ q * (q - truncate q) := by
  rw [truncate, abs_lt]
  split_ifs with h
  · have hlt := Int.ceil_lt_add_one q
    have hle := Int.le_ceil q
    exact ⟨⟨by linarith, by linarith⟩, mul_nonneg_of_nonpos_of_nonpos h.le (by linarith)⟩
  · have hlt := Int.lt_floor_add_one q
    have hle := Int.floor_le q
    exact ⟨⟨by linarith, by linarith⟩, mul_nonneg (not_lt.1 h) (by linarith)⟩

/-- A remainder is smaller than the divisor and does not have the other sign than the dividend. -/
theorem remainder_bounds (a : ℚ) {b : ℚ} (hb : b ≠ 0) :
    |remainder a b| < |b| ∧ 0 ≤ a * remainder a b := by
  obtain ⟨hlt, hsign⟩ := sub_truncate (a / b)
  have ha : a = a / b * b := (div_mul_cancel₀ a hb).symm
  rw [remainder]
  generalize a / b = q at ha hlt hsign ⊢
  have hpart : a - truncate q * b = (q - truncate q) * b := by rw [ha, sub_mul]
  rw [hpart]
  constructor
  · rw [abs_mul]
    exact mul_lt_of_lt_one_left (abs_pos.2 hb) hlt
  · have hproduct : a * ((q - truncate q) * b) = q * (q - truncate q) * (b * b) := by
      rw [ha]
      ring
    rw [hproduct]
    exact mul_nonneg hsign (mul_self_nonneg b)

/-- A remainder is what is left over, if it is smaller than the divisor and has the sign of the
dividend. -/
theorem remainder_eq {a b r : ℚ} {k : ℤ} (h : a = k * b + r) (hlt : |r| < |b|) (hsign : 0 ≤ a * r) :
    remainder a b = r := by
  have hb : b ≠ 0 := abs_pos.1 ((abs_nonneg r).trans_lt hlt)
  have hcut : truncate (a / b) = k := by
    refine truncate_eq (f := r / b) ?_ ?_ ?_
    · rw [h, add_div, mul_div_cancel_right₀ _ hb]
    · rwa [abs_div, div_lt_one (abs_pos.2 hb)]
    · rw [div_mul_div_comm]
      exact div_nonneg hsign (mul_self_nonneg b)
  rw [remainder, hcut, h, add_sub_cancel_left]

/-- A number that is smaller than the divisor is its own remainder. -/
theorem remainder_of_lt {a b : ℚ} (h : |a| < |b|) : remainder a b = a :=
  remainder_eq (k := 0) (by simp) h (mul_self_nonneg a)

/-- A whole number of units is not rounded. -/
theorem roundHalfUp_eq_self {places : ℕ} {q : ℚ} {n : ℤ} (h : q = n / 10 ^ places) :
    roundHalfUp places q = q := by
  have hpow : (0 : ℚ) < 10 ^ places := by positivity
  have hunits : roundedUnits places q = n.natAbs := by
    refine roundedUnits_of_abs_eq ?_
    rw [h, abs_div, abs_of_pos hpow, ← Int.cast_abs, Int.abs_eq_natAbs, Int.cast_natCast]
  have hneg : q < 0 ↔ n < 0 := by
    rw [h, div_lt_iff₀ hpow, zero_mul, Int.cast_lt_zero]
  rw [roundHalfUp, hunits, decide_eq_decide.2 hneg, Decimal.signed_natAbs, h]

namespace Decimal

/-! ### Rounding at the least exponent -/

/-- The places that the least exponent stands for. -/
def leastPlaces : ℕ := (-lowest).toNat

/-- The least exponent, as a number of places. -/
theorem lowest_eq : lowest = -(leastPlaces : ℤ) := by
  rw [leastPlaces, Int.toNat_of_nonneg (by decide), neg_neg]

/-- The number of a coefficient without sign and exponent is that coefficient. -/
theorem toRat_natural (n : ℕ) : (⟨false, n, 0⟩ : Decimal).toRat = n := by
  simp [toRat, signed]

/-- A decimal with no more places is not rounded. -/
theorem roundHalfUp_toRat {x : Decimal} {places : ℕ} (h : -(places : ℤ) ≤ x.exponent) :
    roundHalfUp places x.toRat = x.toRat := by
  refine roundHalfUp_eq_self (n := x.signedAt (-places)) ?_
  rw [toRat_eq_signedAt x h, zpow_neg, zpow_natCast, div_eq_mul_inv]

/-- **Rounding a decimal rounds its number.** -/
theorem toRat_roundedTo (x : Decimal) (places : ℕ) :
    (x.roundedTo (-places)).toRat = roundHalfUp places x.toRat := by
  rcases Int.lt_or_le x.exponent (-places) with h | h
  · have hunits := coefficient_roundedTo x h
    have hsign : signed x.negative (roundedUnits places x.toRat) =
        signed (decide (x.toRat < 0)) (roundedUnits places x.toRat) := by
      by_cases hc : x.coefficient = 0
      · have hzero : roundedUnits places x.toRat = 0 :=
          roundedUnits_of_abs_eq (by rw [(toRat_eq_zero_iff x).2 hc]; simp)
        rw [hzero, signed_zero, signed_zero]
      · rw [decide_toRat_neg hc]
    rw [roundedTo, rounded_of_lt h] at hunits ⊢
    rw [toRat, roundHalfUp, hunits, hsign, zpow_neg, zpow_natCast, div_eq_mul_inv]
  · rw [roundedTo, rounded_of_le h, roundHalfUp_toRat h]

/-! ### Operations -/

/-- The sign of a product is minus if one of the signs is. -/
theorem signed_bne_mul (s t : Bool) (m n : ℕ) :
    signed (s != t) (m * n) = signed s m * signed t n := by
  cases s <;> cases t <;> simp [signed]

/-- The sign of a power is minus if that of its base is and its exponent is odd. -/
theorem signed_pow (s : Bool) (m n : ℕ) : signed (s && n % 2 == 1) (m ^ n) = signed s m ^ n := by
  cases s with
  | false => simp [signed]
  | true =>
    rcases Nat.mod_two_eq_zero_or_one n with h | h
    · simp [signed, h, (Nat.even_iff.2 h).neg_pow]
    · simp [signed, h, (Nat.odd_iff.2 h).neg_pow]

/-- Division with remainder behind the signs: the remainder has the sign of the dividend. -/
theorem signed_div_add_mod (s t : Bool) (m n : ℕ) :
    signed s m = signed (s != t) (m / n) * signed t n + signed s (m % n) := by
  have h : ((m / n : ℕ) : ℤ) * n + (m % n : ℕ) = m := by exact_mod_cast Nat.div_add_mod' m n
  generalize m / n = q at h ⊢
  generalize m % n = r at h ⊢
  cases s <;> cases t <;> simp [signed] <;> linarith

/-- The coefficients multiply and the exponents add up. -/
theorem toRat_product (a b : Decimal) : (⟨a.negative != b.negative, a.coefficient * b.coefficient,
    a.exponent + b.exponent⟩ : Decimal).toRat = a.toRat * b.toRat := by
  rw [toRat, signed_bne_mul, zpow_add₀ (by norm_num), Int.cast_mul, mul_mul_mul_comm]
  rfl

/-- A power of the coefficient behind the sign of the power. -/
theorem toRat_repeated (x : Decimal) (n : ℕ) : (⟨x.negative && n % 2 == 1, x.coefficient ^ n,
    x.exponent * n⟩ : Decimal).toRat = x.toRat ^ n := by
  rw [toRat, signed_pow, zpow_mul, zpow_natCast, Int.cast_pow, ← mul_pow]
  rfl

/-- **A product is the exact one, rounded at the least exponent.** -/
theorem toRat_multiply {a b c : Decimal} (ha : a.exponent ≤ 0) (hb : b.exponent ≤ 0)
    (h : a.multiply b = .ok c) : c.toRat = roundHalfUp leastPlaces (a.toRat * b.toRat) := by
  obtain ⟨-, rfl⟩ := (finish_eq_ok_iff (add_nonpos ha hb)).1 h
  rw [lowest_eq, toRat_roundedTo, toRat_product]

/-- **A number that is a multiple of `10 ^ lowest`.** -/
def Resolved (q : ℚ) : Prop := ∃ k : ℤ, q = k * 10 ^ lowest

/-- A decimal with no exponent below the least one has a resolved number. -/
theorem resolved_toRat {x : Decimal} (h : lowest ≤ x.exponent) : Resolved x.toRat :=
  ⟨x.signedAt lowest, toRat_eq_signedAt x h⟩

/-- What is resolved is not rounded. -/
theorem Resolved.roundHalfUp_eq {q : ℚ} (h : Resolved q) : roundHalfUp leastPlaces q = q := by
  obtain ⟨k, hk⟩ := h
  rw [lowest_eq, zpow_neg, zpow_natCast, ← div_eq_mul_inv] at hk
  exact roundHalfUp_eq_self hk

/-- A power whose base does not end in a zero does not end in one either. -/
theorem not_dvd_pow {m : ℕ} (h : ¬10 ∣ m) (n : ℕ) : ¬10 ∣ m ^ n := by
  intro hdvd
  have htwo : 2 ∣ m := Nat.prime_two.dvd_of_dvd_pow ((show 2 ∣ 10 by decide).trans hdvd)
  have hfive : 5 ∣ m := Nat.prime_five.dvd_of_dvd_pow ((show 5 ∣ 10 by decide).trans hdvd)
  exact h (Nat.Coprime.mul_dvd_of_dvd_of_dvd (by decide) htwo hfive)

/-- **Without zeros at its end, a decimal whose power is resolved has few places.** -/
theorem lowest_le_of_resolved {x : Decimal} {n : ℕ} (hend : x.exponent = 0 ∨ ¬10 ∣ x.coefficient)
    (h : Resolved (x.toRat ^ n)) : lowest ≤ x.exponent * n := by
  rcases hend with hzero | hend
  · rw [hzero, zero_mul]
    exact lowest_nonpos
  by_contra! hlt
  obtain ⟨k, hk⟩ := h
  obtain ⟨j, hj⟩ := Int.eq_ofNat_of_zero_le (show 0 ≤ lowest - x.exponent * n - 1 by omega)
  rw [← toRat_repeated, toRat, show lowest = (j + 1 : ℕ) + x.exponent * n by push_cast; omega,
    zpow_add₀ (by norm_num), zpow_natCast, ← mul_assoc] at hk
  have hcoefficient : signed (x.negative && n % 2 == 1) (x.coefficient ^ n) =
      k * (10 ^ (j + 1) : ℕ) := by
    have hcancel := mul_right_cancel₀ (zpow_ne_zero _ (by norm_num)) hk
    exact_mod_cast hcancel
  have habs : x.coefficient ^ n = k.natAbs * 10 ^ (j + 1) := by
    rw [← natAbs_signed (x.negative && n % 2 == 1) (x.coefficient ^ n), hcoefficient,
      Int.natAbs_mul, Int.natAbs_natCast]
  exact not_dvd_pow hend n (habs ▸ dvd_mul_of_dvd_right (dvd_pow_self 10 j.succ_ne_zero) _)

/-- **A power that is resolved is exact before it is brought into the range**, however its base is
written. -/
theorem toRat_raise {x : Decimal} (hx : x.exponent ≤ 0) (hne : x.coefficient ≠ 0) {n : ℕ}
    (hn : n ≠ 0) (h : Resolved (x.toRat ^ n)) {least : ℤ} (hleast : least ≤ lowest) :
    (raise least x n).toRat = x.toRat ^ n := by
  obtain ⟨y, hpads, hy, hend⟩ := Pads.exists_unpadded hx hne
  rw [hpads.toRat_eq] at h ⊢
  have hlow := lowest_le_of_resolved hend h
  rw [(hpads.raise least n).toRat_eq, raise_of_le hy hn (hleast.trans hlow), repeated_eq,
    toRat_repeated]

/-- **A whole power that is resolved is exact.** -/
theorem toRat_wholePower {x c : Decimal} {n : ℕ} (hx : x.exponent ≤ 0)
    (h : wholePower x n = .ok c) (hresolved : Resolved (x.toRat ^ n)) :
    c.toRat = x.toRat ^ n := by
  rw [wholePower] at h
  split_ifs at h with hn hzero
  · cases h
    rw [hn, pow_zero]
    exact (toRat_natural 1).trans Nat.cast_one
  · cases h
    rw [(toRat_eq_zero_iff x).2 (beq_iff_eq.1 hzero), zero_pow hn, toRat_eq_zero_iff]
  have hne : x.coefficient ≠ 0 := fun h0 => hzero (beq_iff_eq.2 h0)
  rw [naturalPower_eq hx hn] at h
  split_ifs at h with hover hunder hwidth
  · -- What is resolved and not zero is not certain to be below the least exponent.
    simp only [Bool.and_eq_true, decide_eq_true_iff] at hunder
    have hlt := abs_pow_lt_of_logBound hunder.1.1 hunder.2
    obtain ⟨k, hk⟩ := hresolved
    have hk0 : k ≠ 0 := by
      rintro rfl
      rw [Int.cast_zero, zero_mul, pow_eq_zero_iff hn, toRat_eq_zero_iff] at hk
      exact hne hk
    have hone : (1 : ℚ) ≤ |(k : ℚ)| := by exact_mod_cast Int.one_le_abs hk0
    rw [← abs_pow, hk, abs_mul, abs_of_pos (show (0 : ℚ) < 10 ^ lowest by positivity),
      mul_lt_iff_lt_one_left (by positivity)] at hlt
    exact absurd hlt (not_lt.2 hone)
  · have hleast := leastOfProducts_le n
    have hp := exponent_raise_nonpos (hleast.trans lowest_nonpos) hx n
    rw [((finish_eq_ok_iff hp).1 h).2, lowest_eq, toRat_roundedTo]
    have hraise := toRat_raise hx hne hn hresolved hleast
    rw [hraise, hresolved.roundHalfUp_eq]

/-- A power by a number that is not negative is a whole power. -/
theorem exists_wholePower {settings : Settings} {a b c : Decimal} (h : power settings a b = .ok c)
    (hsign : 0 ≤ b.toRat) :
    ∃ n : ℕ, b.toRat = n ∧ wholePower a n = .ok c := by
  simp only [power] at h
  split_ifs at h with hinteger hlimit hnegative
  all_goals
    rw [Bool.not_eq_true', Bool.not_eq_false] at hinteger
    have hvalue := toRat_of_isInteger hinteger
  · rw [Bool.and_eq_true, bne_iff_ne] at hnegative
    rw [hvalue, Int.cast_nonneg_iff, ← not_lt, signed_neg_iff _ hnegative.2] at hsign
    exact absurd hnegative.1 hsign
  · refine ⟨b.integerPart, ?_, (bind_pure _).symm.trans h⟩
    have hsigned : signed b.negative b.integerPart = b.integerPart := by
      rw [Bool.and_eq_true, bne_iff_ne, not_and_or, not_not, Bool.not_eq_true] at hnegative
      rcases hnegative with hfalse | hzero
      · rw [hfalse]
        rfl
      · rw [hzero, signed_zero]
        rfl
    rw [hvalue, hsigned, Int.cast_natCast]

/-- A number is no less than the power of ten at its leading digit. -/
theorem pow_adjusted_le {x : Decimal} (hx : x.coefficient ≠ 0) : 10 ^ x.adjusted ≤ |x.toRat| := by
  have hcount := Digits.count_pos x.coefficient
  have hle : (10 : ℚ) ^ (x.width - 1) ≤ x.coefficient := by exact_mod_cast Digits.pow_le_of_count hx
  rw [abs_toRat, adjusted, show x.exponent + x.width - 1 = ((x.width - 1 : ℕ) : ℤ) + x.exponent by
    rw [width]; omega, zpow_add₀ (by norm_num), zpow_natCast]
  exact mul_le_mul_of_nonneg_right hle (zpow_nonneg (by norm_num) _)

/-- **A remainder is exact**, and there is none by zero. -/
theorem toRat_modulo {a b c : Decimal} (h : a.modulo b = .ok c) :
    b.toRat ≠ 0 ∧ c.toRat = remainder a.toRat b.toRat := by
  simp only [modulo] at h
  split_ifs at h with hzeroB hzeroA hsmall hlong hreach <;> cases h
  all_goals
    have hcB : b.coefficient ≠ 0 := fun h0 => hzeroB (beq_iff_eq.2 h0)
    have hb : b.toRat ≠ 0 := mt (toRat_eq_zero_iff b).1 hcB
    refine ⟨hb, ?_⟩
  · have ha : a.toRat = 0 := (toRat_eq_zero_iff a).2 (beq_iff_eq.1 hzeroA)
    rw [remainder_of_lt (by rw [ha, abs_zero]; exact abs_pos.2 hb), ha, toRat_eq_zero_iff]
  · have hlt : |a.toRat| < |b.toRat| :=
      calc |a.toRat| < 10 ^ (a.adjusted + 1) := a.abs_toRat_lt
        _ ≤ 10 ^ b.adjusted := zpow_le_zpow_right₀ (by norm_num) hsmall
        _ ≤ |b.toRat| := pow_adjusted_le hcB
    rw [remainder_of_lt hlt, toRat_eq_signedAt a (min_le_left _ _)]
    rfl
  · set e := min a.exponent b.exponent
    set m := a.coefficientAt e
    set n := b.coefficientAt e
    have ha : a.toRat = signed a.negative m * 10 ^ e := toRat_eq_signedAt a (min_le_left _ _)
    have hb' : b.toRat = signed b.negative n * 10 ^ e := toRat_eq_signedAt b (min_le_right _ _)
    refine (remainder_eq (k := signed (a.negative != b.negative) (m / n)) ?_ ?_ ?_).symm
    · rw [ha, hb', signed_div_add_mod a.negative b.negative m n, Int.cast_add, Int.cast_mul,
        add_mul, mul_assoc]
      rfl
    · have hn : 0 < n := by
        rw [show n = _ from coefficientAt_eq b e]
        exact Nat.mul_pos (Nat.pos_of_ne_zero hcB) (by positivity)
      have hlt : ((m % n : ℕ) : ℚ) < n := Nat.cast_lt.2 (Nat.mod_lt m hn)
      rw [hb', abs_toRat, show |(signed b.negative n : ℚ) * 10 ^ e| = n * 10 ^ e from
        abs_toRat ⟨b.negative, n, e⟩]
      exact mul_lt_mul_of_pos_right hlt (zpow_pos (by norm_num) _)
    · have hsame : 0 ≤ signed a.negative m * signed a.negative (m % n) := by
        rw [← signed_bne_mul, bne_self_eq_false]
        exact Int.natCast_nonneg _
      have hsame : (0 : ℚ) ≤ signed a.negative m * signed a.negative (m % n) := by
        exact_mod_cast hsame
      rw [ha, toRat, mul_mul_mul_comm]
      exact mul_nonneg hsame (mul_self_nonneg _)

/-- A remainder is undefined for a divisor of zero alone. -/
theorem modulo_eq_divisionByZero {a b : Decimal} (h : a.modulo b = .error .divisionByZero) :
    b.toRat = 0 := by
  simp only [modulo] at h
  split_ifs at h with hzero <;> cases h
  exact (toRat_eq_zero_iff b).2 (beq_iff_eq.1 hzero)

end Decimal

/-- What an operation computes on rational numbers; a quotient, a power by any number but a natural
one and a remainder by zero are left out. -/
def Operation.rational : Operation → ℚ → ℚ → Option ℚ
  | add, a, b => some (a + b)
  | subtract, a, b => some (a - b)
  | multiply, a, b => some (a * b)
  | divide, _, _ => none
  | modulo, a, b => if b = 0 then none else some (remainder a b)
  | power, a, b => if (⌊b⌋₊ : ℚ) = b then some (a ^ ⌊b⌋₊) else none

open Decimal in
/-- **Operations on explicit decimals are those on rational numbers**, where the results of these
are resolved. -/
theorem Operation.rational_run {settings : Settings} {operation : Operation} {a b c : Decimal}
    (h : operation.run settings a b = .ok c) (ha : a.Explicit) (hb : b.Explicit)
    (hdivide : operation ≠ .divide) (hpower : operation = .power → 0 ≤ b.toRat)
    (hresolved : ∀ q, operation.rational a.toRat b.toRat = some q → Resolved q) :
    operation.rational a.toRat b.toRat = some c.toRat := by
  cases operation with
  | add => exact congrArg some (toRat_add h ha.lowest_le hb.lowest_le).symm
  | subtract => exact congrArg some (toRat_subtract h ha.lowest_le hb.lowest_le).symm
  | multiply =>
    rw [toRat_multiply ha.exponent_le hb.exponent_le h, (hresolved _ rfl).roundHalfUp_eq]
    rfl
  | divide => exact absurd rfl hdivide
  | modulo =>
    obtain ⟨hzero, hc⟩ := toRat_modulo h
    rw [rational, if_neg hzero, hc]
  | power =>
    obtain ⟨n, hn, hwhole⟩ := exists_wholePower h (hpower rfl)
    have hexact : power.rational a.toRat b.toRat = some (a.toRat ^ n) := by
      rw [rational, hn, Nat.floor_natCast, if_pos rfl]
    rw [hexact, toRat_wholePower ha.exponent_le hwhole (hresolved _ hexact)]

end Reckoner
