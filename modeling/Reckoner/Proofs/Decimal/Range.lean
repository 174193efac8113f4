/-
# What stays within the range

No operation leaves the exponents of the range (`lowest_le_exponent_of_run`). A decimal whose
exponent is not positive has all the digits of its whole part in its coefficient; if these are not
too many, it is called explicit here (`Explicit`). What is written as a literal is explicit, and so
is all that is computed from explicit decimals (`explicit_of_run`).

Only the quotient is not plain. It is computed with a mark and rounded from there, which comes to
rounding the fraction of its operands (`divide_eq_ok`). Its digits are counted before it is rounded,
and rounding up can make them one more; but a quotient that has as many digits as fit is then a
multiple of the divisor (`quotient_fraction_lt`).
-/

import Reckoner.Expr.Evaluation
import Reckoner.Proofs.Decimal.Raising
import Reckoner.Proofs.Decimal.Value
import Reckoner.Proofs.Outcome

namespace Reckoner

namespace Decimal

/-! ### Results of operations -/

/-- The exponent and the coefficient of what is trimmed. -/
theorem trimmed_spec (negative : Bool) (units places : ℕ) :
    -(places : ℤ) ≤ (trimmed negative units places).exponent ∧
      (trimmed negative units places).exponent ≤ 0 ∧
      (trimmed negative units places).coefficient ≤ units := by
  have hstrip := Digits.strip_spec units
  rw [trimmed, Digits.tenTo_eq]
  split_ifs with hmod
  · exact ⟨by simp, le_rfl, Nat.div_le_self _ _⟩
  · refine ⟨by simp, ?_, ?_⟩
    · have hzeros : (Digits.strip units).2 < places := by
        by_contra! hle
        refine hmod (Nat.mod_eq_zero_of_dvd ?_)
        rw [← hstrip]
        exact dvd_mul_of_dvd_right (pow_dvd_pow 10 hle) _
      simp only
      omega
    · calc (Digits.strip units).1 ≤ (Digits.strip units).1 * 10 ^ (Digits.strip units).2 :=
          Nat.le_mul_of_pos_right _ (by positivity)
        _ = units := hstrip

/-- A quotient that is just below a power of ten, of numbers with no more digits than that, where
the dividend was scaled: it is exact. -/
theorem mod_eq_zero_of_div_add_one {m d s P : ℕ} (hm : m < 10 ^ P) (hd : d < 10 ^ P) (hpos : 0 < d)
    (h : m * 10 ^ s / d + 1 = 10 ^ P) : m * 10 ^ s % d = 0 := by
  have hdiv := Nat.div_add_mod (m * 10 ^ s) d
  have hmod := Nat.mod_lt (m * 10 ^ s) hpos
  have hscaled : d * 10 ^ P = m * 10 ^ s + (d - m * 10 ^ s % d) := by
    rw [← h, Nat.mul_add, Nat.mul_one]
    omega
  -- What is missing to the power of ten is a multiple of the scale, so that is below the divisor.
  have hdvd : 10 ^ min s P ∣ d - m * 10 ^ s % d := by
    refine (Nat.dvd_add_right (dvd_mul_of_dvd_right (pow_dvd_pow 10 (min_le_left s P)) m)).1 ?_
    rw [← hscaled]
    exact dvd_mul_of_dvd_right (pow_dvd_pow 10 (min_le_right s P)) d
  have hscale : 10 ^ min s P ≤ d :=
    (Nat.le_of_dvd (by omega) hdvd).trans (Nat.sub_le _ _)
  have hs : 10 ^ s ≤ d := by
    rcases Nat.le_total s P with hle | hle
    · rwa [min_eq_left hle] at hscale
    · rw [min_eq_right hle] at hscale
      omega
  have hupper : m * 10 ^ s ≤ (10 ^ P - 1) * d := Nat.mul_le_mul (by omega) hs
  have hquotient : (10 ^ P - 1) * d = d * (m * 10 ^ s / d) := by
    rw [← h, Nat.add_sub_cancel, Nat.mul_comm]
  omega

/-- **A rounded quotient has no more digits than were counted before.** -/
theorem quotient_fraction_lt {a b : Decimal} {kept P : ℕ} (mode : Rounding) (negative : Bool)
    (hP : 0 < P) (ha : a.width ≤ P) (hzero : b.coefficient ≠ 0) (hb : b.width ≤ P)
    (hdigits : a.coefficient ≠ 0 → a.adjusted + kept + 1 - b.adjusted ≤ P) :
    mode.quotient negative (fraction a b kept).1 (fraction a b kept).2 < 10 ^ P := by
  have hten : 10 ^ 1 ≤ 10 ^ P := Nat.pow_le_pow_right (by decide) hP
  have hm := (Digits.count_le_iff hP).1 ha
  have hcb := (Digits.count_le_iff hP).1 hb
  by_cases haz : a.coefficient = 0
  · rw [Rounding.quotient, fraction, haz, Nat.zero_mul, Nat.zero_div, Nat.zero_mod,
      Tail.ofRemainder, if_pos rfl, Rounding.settle_nothing]
    omega
  · have hdigits := hdigits haz
    simp only [fraction, Rounding.quotient]
    generalize hshift : a.exponent - b.exponent + (kept : ℤ) = shift
    rcases Int.le_total shift 0 with hneg | hpos
    · rw [Int.toNat_eq_zero.2 hneg, pow_zero, Nat.mul_one]
      rcases Nat.lt_or_ge 1 (b.coefficient * 10 ^ (-shift).toNat) with hd | hd
      · have : a.coefficient / (b.coefficient * 10 ^ (-shift).toNat) ≤ a.coefficient / 2 :=
          Nat.div_le_div_left hd (by decide)
        exact (Rounding.settle_le ..).trans_lt (by omega)
      · have hone : b.coefficient * 10 ^ (-shift).toNat = 1 :=
          le_antisymm hd (Nat.mul_pos (Nat.pos_of_ne_zero hzero) (by positivity))
        rw [hone, Nat.mod_one, Nat.div_one, Tail.ofRemainder, if_pos rfl,
          Rounding.settle_nothing]
        exact hm
    · rw [Int.toNat_eq_zero.2 (show -shift ≤ 0 by omega), pow_zero, Nat.mul_one]
      have hlt : a.coefficient * 10 ^ shift.toNat / b.coefficient < 10 ^ P := by
        refine (Nat.div_lt_iff_lt_mul (Nat.pos_of_ne_zero hzero)).2 ?_
        have hcounts : a.width + shift.toNat ≤ P + (b.width - 1) := by
          have := Digits.count_pos b.coefficient
          simp only [adjusted, width] at hdigits ⊢
          omega
        calc a.coefficient * 10 ^ shift.toNat < 10 ^ a.width * 10 ^ shift.toNat :=
              Nat.mul_lt_mul_of_pos_right (Digits.lt_pow_count _) (by positivity)
          _ = 10 ^ (a.width + shift.toNat) := (pow_add ..).symm
          _ ≤ 10 ^ (P + (b.width - 1)) := Nat.pow_le_pow_right (by decide) hcounts
          _ = 10 ^ P * 10 ^ (b.width - 1) := pow_add ..
          _ ≤ 10 ^ P * b.coefficient := Nat.mul_le_mul_left _ (Digits.pow_le_of_count hzero)
      rcases Nat.lt_or_ge (a.coefficient * 10 ^ shift.toNat / b.coefficient + 1) (10 ^ P) with h | h
      · exact (Rounding.settle_le ..).trans_lt h
      · have hexact := mod_eq_zero_of_div_add_one hm hcb (Nat.pos_of_ne_zero hzero)
          (le_antisymm hlt h)
        rw [hexact, Tail.ofRemainder, if_pos rfl, Rounding.settle_nothing]
        exact hlt

/-- A remainder is zero, the dividend, or smaller than the divisor, all at the smaller exponent. -/
theorem modulo_cases {a b c : Decimal} (h : modulo a b = .ok c) :
    c.exponent = min a.exponent b.exponent ∧
      (c.coefficient = 0 ∨
        (a.adjusted < b.adjusted ∧ c.coefficient = a.coefficientAt (min a.exponent b.exponent)) ∨
        (b.width + (b.exponent - min a.exponent b.exponent).toNat ≤ precision ∧
          c.coefficient ≤ b.coefficientAt (min a.exponent b.exponent))) := by
  simp only [modulo] at h
  split_ifs at h with hb ha hsmall hlong hreach <;> cases h
  · exact ⟨rfl, .inl rfl⟩
  · exact ⟨rfl, .inr (.inl ⟨hsmall, rfl⟩)⟩
  · rw [Bool.or_eq_true, not_or, Bool.not_eq_true', Bool.not_eq_false, Bool.not_eq_true',
      Bool.not_eq_false, reaches, reaches, Bool.or_eq_true, Bool.or_eq_true,
      decide_eq_true_iff, decide_eq_true_iff] at hreach
    have hpos : 0 < b.coefficientAt (min a.exponent b.exponent) := by
      rw [coefficientAt_eq]
      exact Nat.mul_pos (Nat.pos_of_ne_zero fun h0 => hb (beq_iff_eq.2 h0)) (by positivity)
    exact ⟨rfl, .inr (.inr ⟨hreach.2.resolve_left hb, (Nat.mod_lt _ hpos).le⟩)⟩

/-- What becomes of a whole power: one, a zero, or a result that is brought into the range. -/
theorem wholePower_cases {x c : Decimal} {n : ℕ} (h : wholePower x n = .ok c) :
    c = one ∨ (∃ negative, c = ⟨negative, 0, 0⟩ ∨ c = ⟨negative, 0, lowest⟩) ∨
      ∃ p : Decimal, (x.exponent ≤ 0 → p.exponent ≤ 0) ∧
        finish p.negative p.coefficient p.exponent = .ok c := by
  simp only [wholePower, naturalPower] at h
  split_ifs at h
  · exact .inl (Except.ok.inj h).symm
  · exact .inr (.inl ⟨_, .inl (Except.ok.inj h).symm⟩)
  · exact .inr (.inl ⟨_, .inr (Except.ok.inj h).symm⟩)
  · exact .inr (.inr ⟨_, fun hx => mul_nonpos_of_nonpos_of_nonneg hx (Int.natCast_nonneg n), h⟩)
  · have hleast : leastOfProducts n ≤ 0 := (leastOfProducts_le n).trans (by decide)
    exact .inr (.inr ⟨_, fun hx => exponent_raise_nonpos hleast hx n, h⟩)

/-- A power is a whole power or its reciprocal. -/
theorem power_eq_ok {settings : Settings} {a b c : Decimal} (h : power settings a b = .ok c) :
    ∃ n p, wholePower a n = .ok p ∧ (c = p ∨ divide settings one p = .ok c) := by
  simp only [power] at h
  split_ifs at h
  · obtain ⟨p, hp, hdivide⟩ := bind_eq_ok_iff.1 h
    exact ⟨_, p, hp, .inr hdivide⟩
  · obtain ⟨p, hp, hreturn⟩ := bind_eq_ok_iff.1 h
    exact ⟨_, p, hp, .inl (Except.ok.inj hreturn).symm⟩

/-! ### Exponents -/

/-- The least exponent is not positive. -/
theorem lowest_nonpos : lowest ≤ 0 := by decide

/-- Zero has no more digits than a decimal. -/
theorem count_zero_le : Digits.count 0 ≤ precision := by decide

/-- A quotient is in the exponents of the range. -/
theorem lowest_le_exponent_of_divide {settings : Settings} {a b c : Decimal}
    (h : divide settings a b = .ok c) : lowest ≤ c.exponent := by
  obtain ⟨-, negative, mode, -, -, rfl⟩ := divide_eq_ok h
  have hkept : keptPlaces settings ≤ finestPlaces := min_le_right _ _
  have hexponent := (trimmed_spec negative (mode.quotient negative
    (fraction a b (keptPlaces settings)).1 (fraction a b (keptPlaces settings)).2)
    (keptPlaces settings)).1
  rw [finestPlaces] at hkept
  rw [lowest]
  omega

/-- **No operation goes below the least exponent.** -/
theorem lowest_le_exponent_of_run {settings : Settings} {operation : Operation} {a b c : Decimal}
    (h : operation.run settings a b = .ok c) (ha : lowest ≤ a.exponent)
    (hb : lowest ≤ b.exponent) : lowest ≤ c.exponent := by
  cases operation with
  | add => exact lowest_le_exponent_of_add h
  | subtract => exact lowest_le_exponent_of_add h
  | multiply => exact lowest_le_exponent_of_finish h
  | divide => exact lowest_le_exponent_of_divide h
  | modulo => exact (modulo_cases h).1 ▸ le_min ha hb
  | power =>
    obtain ⟨n, p, hp, rfl | hdivide⟩ := power_eq_ok h
    · obtain rfl | ⟨negative, rfl | rfl⟩ | ⟨p, -, hfinish⟩ := wholePower_cases hp
      · exact lowest_nonpos
      · exact lowest_nonpos
      · exact le_rfl
      · exact lowest_le_exponent_of_finish hfinish
    · exact lowest_le_exponent_of_divide hdivide

/-! ### Explicit decimals -/

/-- A decimal whose whole part has all its digits in the coefficient, which are not too many. -/
structure Explicit (x : Decimal) : Prop where
  lowest_le : lowest ≤ x.exponent
  exponent_le : x.exponent ≤ 0
  width_le : x.width ≤ precision

/-- An explicit decimal is in the range. -/
theorem Explicit.inRange {x : Decimal} (h : x.Explicit) : x.inRange := by
  obtain ⟨hlow, hexponent, hwidth⟩ := h
  refine (inRange_iff x).2 ⟨hlow, hwidth, ?_⟩
  simp only [adjusted, precision, highest] at hwidth ⊢
  omega

/-- A result without a positive exponent that is brought into the range is explicit. -/
theorem explicit_of_finish {negative : Bool} {n : ℕ} {e : ℤ} {x : Decimal}
    (h : finish negative n e = .ok x) (he : e ≤ 0) : x.Explicit := by
  rcases finish_cases h with ⟨-, rfl⟩ | ⟨hn, hcount, -, ⟨-, rfl⟩ | ⟨hlow, rfl⟩⟩
  · exact ⟨le_max_left _ _, max_le lowest_nonpos ((min_le_right _ _).trans he), count_zero_le⟩
  · exact ⟨le_rfl, lowest_nonpos,
      (Digits.count_le_of_le (Rounding.dropDigits_le .halfUp negative hn _)).trans hcount⟩
  · exact ⟨hlow, he, hcount⟩

/-- A sum is explicit if one of its parts has no positive exponent. -/
theorem explicit_of_add {a b c : Decimal} (h : a.add b = .ok c) (ha : a.exponent ≤ 0) :
    c.Explicit :=
  let ⟨_, _, hfinish⟩ := add_eq_finish h
  explicit_of_finish hfinish ((min_le_left _ _).trans ha)

/-- A remainder of explicit decimals is explicit. -/
theorem explicit_of_modulo {a b c : Decimal} (h : modulo a b = .ok c) (ha : a.Explicit)
    (hb : b.Explicit) : c.Explicit := by
  obtain ⟨hexponent, hcases⟩ := modulo_cases h
  refine ⟨hexponent ▸ le_min ha.lowest_le hb.lowest_le,
    hexponent ▸ (min_le_left _ _).trans ha.exponent_le, ?_⟩
  have hwidth := ha.width_le
  have hwidth' := hb.width_le
  rw [width]
  rcases hcases with hzero | ⟨hsmall, hcoefficient⟩ | ⟨hreach, hcoefficient⟩
  · rw [hzero]
    exact count_zero_le
  · have hcount := Digits.count_mul_pow_le a.coefficient
      (a.exponent - min a.exponent b.exponent).toNat
    rw [hcoefficient, coefficientAt_eq]
    simp only [adjusted, width] at hsmall hwidth hwidth'
    omega
  · have hcount := Digits.count_mul_pow_le b.coefficient
      (b.exponent - min a.exponent b.exponent).toNat
    rw [coefficientAt_eq] at hcoefficient
    rw [width] at hreach
    exact (Digits.count_le_of_le hcoefficient).trans (hcount.trans hreach)

/-- A quotient of decimals of the range is explicit. -/
theorem explicit_of_divide {settings : Settings} {a b c : Decimal}
    (h : divide settings a b = .ok c) (ha : a.width ≤ precision) (hb : b.width ≤ precision) :
    c.Explicit := by
  have hlow := lowest_le_exponent_of_divide h
  obtain ⟨hzero, negative, mode, -, hdigits, rfl⟩ := divide_eq_ok h
  obtain ⟨-, hexponent, hcoefficient⟩ := trimmed_spec negative (mode.quotient negative
    (fraction a b (keptPlaces settings)).1 (fraction a b (keptPlaces settings)).2)
    (keptPlaces settings)
  have hunits := quotient_fraction_lt mode negative (by decide) ha hzero hb
    fun h0 => (hdigits h0).2
  exact ⟨hlow, hexponent, (Digits.count_le_of_le hcoefficient).trans
    ((Digits.count_le_iff (by decide)).2 hunits)⟩

/-- A whole power of a base without a positive exponent is explicit. -/
theorem explicit_of_wholePower {x c : Decimal} {n : ℕ} (h : wholePower x n = .ok c)
    (hx : x.exponent ≤ 0) : c.Explicit := by
  obtain rfl | ⟨negative, rfl | rfl⟩ | ⟨p, hp, hfinish⟩ := wholePower_cases h
  · exact ⟨by decide, by decide, by decide⟩
  · exact ⟨lowest_nonpos, le_rfl, count_zero_le⟩
  · exact ⟨le_rfl, lowest_nonpos, count_zero_le⟩
  · exact explicit_of_finish hfinish (hp hx)

/-- **What is computed from explicit decimals is explicit.** -/
theorem explicit_of_run {settings : Settings} {operation : Operation} {a b c : Decimal}
    (h : operation.run settings a b = .ok c) (ha : a.Explicit) (hb : b.Explicit) :
    c.Explicit := by
  cases operation with
  | add => exact explicit_of_add h ha.exponent_le
  | subtract => exact explicit_of_add h ha.exponent_le
  | multiply => exact explicit_of_finish h (add_nonpos ha.exponent_le hb.exponent_le)
  | divide => exact explicit_of_divide h ha.width_le hb.width_le
  | modulo => exact explicit_of_modulo h ha hb
  | power =>
    obtain ⟨n, p, hp, rfl | hdivide⟩ := power_eq_ok h
    · exact explicit_of_wholePower hp ha.exponent_le
    · exact explicit_of_divide hdivide (by decide)
        (explicit_of_wholePower hp ha.exponent_le).width_le

/-- Zero and an explicit decimal add up to the decimal. -/
theorem Explicit.zero_add {x : Decimal} (h : x.Explicit) :
    ∃ y, zero.add x = .ok y ∧ y.Twin x := by
  obtain ⟨hlow, hexponent, hwidth⟩ := h
  have hreach : x.reaches x.exponent := by
    rw [reaches, Int.sub_self, Int.toNat_zero, Nat.add_zero, decide_eq_true hwidth, Bool.or_true]
  have hsum : zero.signedAt x.exponent + x.signedAt x.exponent =
      signed x.negative x.coefficient := by
    rw [signedAt_eq, signedAt_eq, Int.sub_self, Int.toNat_zero, pow_zero, Nat.cast_one, mul_one]
    exact (congrArg (· + _) (zero_mul _)).trans (Int.zero_add _)
  have hfinish : finish x.negative x.coefficient x.exponent = .ok x := by
    rw [width] at hwidth
    have hover : x.exponent + Digits.count x.coefficient - 1 ≤ highest := by
      simp only [precision, highest] at hwidth ⊢
      omega
    have hzero : max lowest (min highest x.exponent) = x.exponent := by
      rw [min_eq_right (hexponent.trans (by decide)), max_eq_right hlow]
    rw [finish]
    split_ifs with hn hcount hhigh hunder
    · rw [hzero, ← hn]
    · omega
    · omega
    · omega
    · rfl
  have hadd : zero.add x = finish (if signed x.negative x.coefficient = 0 then
      zero.negative && x.negative else signed x.negative x.coefficient < 0)
      x.coefficient x.exponent := by
    have hzero : zero.reaches x.exponent := by
      rw [reaches, show zero.isZero = true from rfl, Bool.true_or]
    simp only [add, show min zero.exponent x.exponent = x.exponent from min_eq_right hexponent,
      hreach, hzero, hsum, natAbs_signed, Bool.not_true, Bool.or_self, Bool.false_eq_true, if_false]
  have hsign : x.coefficient ≠ 0 → x.negative = (if signed x.negative x.coefficient = 0 then
      zero.negative && x.negative else signed x.negative x.coefficient < 0) := by
    intro hne
    have hsigned : signed x.negative x.coefficient ≠ 0 := fun h0 => hne (by
      rw [← natAbs_signed x.negative x.coefficient, h0, Int.natAbs_zero])
    rw [if_neg hsigned, Bool.eq_iff_iff, decide_eq_true_iff, signed_neg_iff _ hne]
  obtain ⟨y, hy, htwin⟩ := twin_of_finish hfinish hsign
  exact ⟨y, hadd.trans hy, htwin.symm⟩

/-- A negation of an explicit decimal is explicit. -/
theorem Explicit.negate {x : Decimal} (h : x.Explicit) : x.negate.Explicit :=
  ⟨h.lowest_le, h.exponent_le, h.width_le⟩

end Decimal
end Reckoner
