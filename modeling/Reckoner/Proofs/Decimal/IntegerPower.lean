/-
# Powers by integers

A power depends on the number of its exponent alone (`power_eq`): if that is no integer there is
none, if it is an integer above the limit there is none either, and what is left is the whole power
by the magnitude, or its reciprocal. A whole power is exact as long as its exponent does not fall
below the least one (`toRat_wholePower_of_le`), so the reciprocal is rounded once.

A limit may have more digits than are ever written. Then the message that would quote it fails, and
the fault is not reported as the undefined operation that it is (`power_limit_too_long`).
-/

import Reckoner.Proofs.Decimal.Division
import Reckoner.Proofs.Decimal.Placement

namespace Reckoner
namespace Decimal

/-! ### Whole powers -/

/-- **A whole power is exact** if its exponent is not below the least one. -/
theorem toRat_wholePower_of_le {x p : Decimal} {n : ℕ} (hlow : lowest ≤ x.exponent * n)
    (h : wholePower x n = .ok p) : p.toRat = x.toRat ^ n := by
  simp only [wholePower, naturalPower] at h
  split_ifs at h with hn hzero hover hunder hwidth hfine
  · cases h
    rw [hn, pow_zero]
    exact (toRat_natural 1).trans Nat.cast_one
  · cases h
    rw [(toRat_eq_zero_iff x).2 (beq_iff_eq.1 hzero), zero_pow hn, toRat_eq_zero_iff]
  · -- What is taken for zero at once has an exponent below the least one.
    rw [Bool.and_eq_true, Bool.and_eq_true, decide_eq_true_iff, decide_eq_true_iff] at hunder
    exact absurd hlow (not_le.2 hunder.1.2)
  · rw [repeated_eq] at h
    rw [← toRat_repeated]
    exact toRat_finish h hlow
  · exact absurd ((leastOfProducts_le n).trans hlow) hfine

/-- Bringing a result into the range refuses nothing as undefined. -/
theorem refusal_finish (negative : Bool) (n : ℕ) (e : ℤ) :
    refusal (finish negative n e) = none := by
  rw [finish]
  split_ifs <;> rfl

/-- No whole power is undefined. -/
theorem refusal_wholePower (x : Decimal) (n : ℕ) : refusal (wholePower x n) = none := by
  simp only [wholePower, naturalPower]
  split_ifs <;> first | rfl | exact refusal_finish _ _ _

/-- Quotients are undefined by zero alone. -/
theorem refusal_divide (settings : Settings) (a b : Decimal) :
    refusal (divide settings a b) = if b.toRat = 0 then some .divisionByZero else none := by
  simp only [toRat_eq_zero_iff, divide, isZero, beq_iff_eq]
  split_ifs
  · rfl
  · rfl
  · rfl
  · rfl
  · rfl
  · cases settings.rounding <;> rfl

/-! ### The number of the exponent -/

variable {settings : Settings} {a b : Decimal}

/-- The fault of an exponent above the limit, which its message quotes. -/
def limitFault (settings : Settings) : Fault :=
  if settings.maxExponent.isTooLong then .limitTooLong
  else .exponentTooLarge settings.maxExponent

/-- There is no power by a number that is no integer. -/
theorem power_of_not_integer (h : ¬∃ n : ℤ, b.toRat = n) :
    power settings a b = .error .nonIntegerExponent := by
  have hinteger : b.isInteger = false := by
    rwa [← isInteger_iff_exists, Bool.not_eq_true] at h
  rw [power, hinteger]
  rfl

/-- **A power by an integer** is made of the integer alone. -/
theorem power_eq {n : ℤ} (h : b.toRat = n) : power settings a b =
    if settings.maxExponent.toNat < n.natAbs then .error (limitFault settings)
    else do
      let p ← wholePower a n.natAbs
      if n < 0 then divide settings one p else return p := by
  have hinteger : b.isInteger = true := (isInteger_iff_exists b).2 ⟨n, h⟩
  have hsigned : signed b.negative b.integerPart = n := by
    have hvalue := toRat_of_isInteger hinteger
    rw [h] at hvalue
    exact_mod_cast hvalue.symm
  have hpart : b.integerPart = n.natAbs := by rw [← hsigned, natAbs_signed]
  have hlimit : b.exceeds settings.maxExponent.toNat = true ↔
      settings.maxExponent.toNat < n.natAbs := by rw [exceeds_iff, hpart]
  have hsign : (b.negative && n.natAbs != 0) = true ↔ n < 0 := by
    rw [Bool.and_eq_true, bne_iff_ne, ← hpart, ← hsigned]
    by_cases hzero : b.integerPart = 0
    · rw [hzero, signed_zero]
      simp
    · rw [signed_neg_iff _ hzero, and_iff_left hzero]
  simp only [power, hinteger, Bool.not_true, Bool.false_eq_true, if_false, hlimit, hpart, hsign]
  rfl

/-- **How the exponent is written does not matter.** -/
theorem power_eq_of_toRat_eq {b' : Decimal} (h : b'.toRat = b.toRat) :
    power settings a b' = power settings a b := by
  by_cases hinteger : ∃ n : ℤ, b.toRat = n
  · obtain ⟨n, hn⟩ := hinteger
    rw [power_eq hn, power_eq (h.trans hn)]
  · rw [power_of_not_integer hinteger, power_of_not_integer (by rwa [h])]

/-! ### Outcomes -/

/-- Within the limit, a power by an integer is undefined only as a division by zero. -/
theorem refusal_power_within {n : ℤ} (h : b.toRat = n)
    (hlimit : n.natAbs ≤ settings.maxExponent.toNat) :
    refusal (power settings a b) = none ∨ refusal (power settings a b) = some .divisionByZero := by
  rw [power_eq h, if_neg (not_lt.2 hlimit)]
  cases hp : wholePower a n.natAbs with
  | error fault =>
    have hreason := refusal_wholePower a n.natAbs
    rw [hp] at hreason
    exact .inl hreason
  | ok p =>
    change refusal (if n < 0 then divide settings one p else .ok p) = none ∨
      refusal (if n < 0 then divide settings one p else .ok p) = some .divisionByZero
    split_ifs
    · rw [refusal_divide]
      split_ifs
      · exact .inr rfl
      · exact .inl rfl
    · exact .inl rfl

/-- A power by an integer within the limit that does not fall below the least exponent: it leaves
the range, or it is the exact whole power or the quotient by it. -/
theorem power_within {n : ℤ} (h : b.toRat = n) (hlimit : n.natAbs ≤ settings.maxExponent.toNat)
    (hlow : lowest ≤ a.exponent * n.natAbs) :
    (∃ fault, wholePower a n.natAbs = .error fault ∧ power settings a b = .error fault) ∨
      ∃ p, p.toRat = a.toRat ^ n.natAbs ∧
        power settings a b = if n < 0 then divide settings one p else .ok p := by
  rw [power_eq h, if_neg (not_lt.2 hlimit)]
  cases hp : wholePower a n.natAbs with
  | error fault => exact .inl ⟨fault, rfl, rfl⟩
  | ok p => exact .inr ⟨p, toRat_wholePower_of_le hlow hp, rfl⟩

/-- The value of a power by an integer within the limit. -/
theorem toRat_power_within (hplaces : settings.places.toNat ≤ 999999) {n : ℤ} (h : b.toRat = n)
    (hlimit : n.natAbs ≤ settings.maxExponent.toNat) (hlow : lowest ≤ a.exponent * n.natAbs)
    {v : Decimal} (hv : power settings a b = .ok v) :
    (0 ≤ n → v.toRat = a.toRat ^ n.natAbs) ∧
      (n < 0 → ∃ mode, settings.rounding = some mode ∧
        v.toRat = mode.toInt (1 / a.toRat ^ n.natAbs * 10 ^ settings.places.toNat) /
          10 ^ settings.places.toNat) := by
  obtain ⟨fault, -, hpower⟩ | ⟨p, hp, hpower⟩ := power_within h hlimit hlow
  · rw [hpower] at hv
    cases hv
  · rw [hpower] at hv
    constructor
    · intro hn
      rw [if_neg (not_lt.2 hn)] at hv
      rw [← Except.ok.inj hv, hp]
    · intro hn
      rw [if_pos hn] at hv
      obtain ⟨mode, hmode, hvalue⟩ := exists_toRat_divide hplaces hv
      rw [show one.toRat = 1 from (toRat_natural 1).trans Nat.cast_one, hp] at hvalue
      exact ⟨mode, hmode, hvalue⟩

/-- Zero has no power by a negative integer, and no other number lacks one. -/
theorem refusal_power_iff {n : ℤ} (h : b.toRat = n)
    (hlimit : n.natAbs ≤ settings.maxExponent.toNat) (hlow : lowest ≤ a.exponent * n.natAbs) :
    refusal (power settings a b) = some .divisionByZero ↔ n < 0 ∧ a.toRat = 0 := by
  obtain ⟨fault, hwhole, hpower⟩ | ⟨p, hp, hpower⟩ := power_within h hlimit hlow
  · -- A power of zero does not leave the range.
    have hreason := refusal_wholePower a n.natAbs
    rw [hwhole] at hreason
    rw [hpower, hreason]
    refine iff_of_false (by simp) ?_
    rintro ⟨-, ha⟩
    have hzero : a.isZero = true := beq_iff_eq.2 ((toRat_eq_zero_iff a).1 ha)
    rw [wholePower, if_pos hzero] at hwhole
    split_ifs at hwhole
  · rw [hpower]
    split_ifs with hn
    · have hne : n.natAbs ≠ 0 := by omega
      simp only [refusal_divide, hp, pow_eq_zero_iff hne]
      simp [hn]
    · constructor
      · intro hreason
        cases hreason
      · intro hzero
        exact absurd hzero.1 hn

/-- **Powers by integers, and what they are refused for.** There is no power by a number that is no
integer, and none by an integer above the limit; a limit that is too long to be written is reported
as a fault of another kind. Otherwise, if the power does not fall below the least exponent, only
zero to a negative integer is undefined, and what there is is the exact power, or its reciprocal
rounded once. How the exponent is written does not matter. -/
theorem power_outcomes (hplaces : settings.places.toNat ≤ 999999) (a b : Decimal) :
    (refusal (power settings a b) = some .nonIntegerExponent ↔ ¬∃ n : ℤ, b.toRat = n) ∧
      (∀ n : ℤ, b.toRat = n →
        (refusal (power settings a b) = some .exponentTooLarge ↔
          settings.maxExponent.toNat < n.natAbs ∧ ¬settings.maxExponent.isTooLong) ∧
        (settings.maxExponent.toNat < n.natAbs →
          power settings a b = .error (limitFault settings)) ∧
        (n.natAbs ≤ settings.maxExponent.toNat → lowest ≤ a.exponent * n.natAbs →
          (refusal (power settings a b) = some .divisionByZero ↔ n < 0 ∧ a.toRat = 0) ∧
          ∀ v, power settings a b = .ok v →
            (0 ≤ n → v.toRat = a.toRat ^ n.natAbs) ∧
            (n < 0 → ∃ mode, settings.rounding = some mode ∧
              v.toRat = mode.toInt (1 / a.toRat ^ n.natAbs * 10 ^ settings.places.toNat) /
                10 ^ settings.places.toNat))) ∧
      ∀ b' : Decimal, b'.toRat = b.toRat → power settings a b' = power settings a b := by
  refine ⟨?_, fun n hn => ⟨?_, fun hlimit => by rw [power_eq hn, if_pos hlimit],
    fun hlimit hlow => ⟨refusal_power_iff hn hlimit hlow,
      fun v => toRat_power_within hplaces hn hlimit hlow⟩⟩, fun b' => power_eq_of_toRat_eq⟩
  · by_cases hinteger : ∃ n : ℤ, b.toRat = n
    · refine iff_of_false ?_ (not_not.2 hinteger)
      obtain ⟨n, hn⟩ := hinteger
      rcases Nat.lt_or_ge settings.maxExponent.toNat n.natAbs with hlimit | hlimit
      · rw [power_eq hn, if_pos hlimit, refusal, limitFault]
        split_ifs <;> exact nofun
      · obtain h | h := refusal_power_within (a := a) hn hlimit <;> rw [h] <;> exact nofun
    · rw [power_of_not_integer hinteger]
      exact iff_of_true rfl hinteger
  · rcases Nat.lt_or_ge settings.maxExponent.toNat n.natAbs with hlimit | hlimit
    · rw [power_eq hn, if_pos hlimit, refusal, limitFault, and_iff_right hlimit]
      split_ifs with hlong
      · exact iff_of_false nofun (not_not.2 hlong)
      · exact iff_of_true rfl hlong
    · refine iff_of_false ?_ fun h => absurd h.1 (not_lt.2 hlimit)
      obtain h | h := refusal_power_within (a := a) hn hlimit <;> rw [h] <;> exact nofun

/-- A reciprocal is rounded once, whether its exponent is written `-2` or `-2.0`. -/
theorem power_outcomes_reciprocal :
    power ⟨.number 3, some .up, .number 9⟩ ⟨false, 15, -1⟩ ⟨true, 20, -1⟩ =
        .ok ⟨false, 445, -3⟩ ∧
      (⟨false, 445, -3⟩ : Decimal).toRat =
        Rounding.up.toInt (1 / (⟨false, 15, -1⟩ : Decimal).toRat ^ 2 * 10 ^ 3) / 10 ^ 3 ∧
      power ⟨.number 3, some .up, .number 9⟩ ⟨false, 15, -1⟩ ⟨true, 2, 0⟩ =
        .ok ⟨false, 445, -3⟩ := by
  have hpower : power ⟨.number 3, some .up, .number 9⟩ ⟨false, 15, -1⟩ ⟨true, 20, -1⟩ =
      .ok ⟨false, 445, -3⟩ := by decide
  have hexponent : (⟨true, 20, -1⟩ : Decimal).toRat = (-2 : ℤ) := by norm_num [toRat, signed]
  have hplaces : (⟨.number 3, some .up, .number 9⟩ : Settings).places.toNat ≤ 999999 := by decide
  obtain ⟨-, hinteger, hwritten⟩ := power_outcomes hplaces ⟨false, 15, -1⟩ ⟨true, 20, -1⟩
  obtain ⟨-, -, hwithin⟩ := hinteger (-2) hexponent
  obtain ⟨mode, hmode, hvalue⟩ :=
    ((hwithin (by decide) (by decide)).2 _ hpower).2 (by decide)
  obtain rfl := Option.some.inj hmode
  refine ⟨hpower, hvalue, ?_⟩
  rw [hwritten ⟨true, 2, 0⟩ (by norm_num [toRat, signed]), hpower]

/-- An exponent above a limit of 4302 digits is not reported as too large. -/
theorem power_limit_too_long :
    (⟨false, 10 ^ 4302, 0⟩ : Decimal).toRat = ((10 ^ 4302 : ℤ) : ℚ) ∧ 16 ^ 3572 < 10 ^ 4302 ∧
      refusal (power ⟨.number 40, some .halfUp, .number (16 ^ 3572)⟩ one ⟨false, 10 ^ 4302, 0⟩) ≠
        some .exponentTooLarge := by
  refine ⟨?_, by decide +kernel, by decide +kernel⟩
  rw [toRat_natural, Nat.cast_pow, Nat.cast_ofNat, Int.cast_pow, Int.cast_ofNat]

end Decimal
end Reckoner
