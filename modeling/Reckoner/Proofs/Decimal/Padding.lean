/-
# Zeros at the end

A decimal may be written with more zeros at its end (`Decimal.Pads`): `1.50` pads `1.5`, and `0.00`
pads `0` of either sign. Arithmetic takes both for the same. Where exponents are not positive, what
is computed from padded decimals is also computed from those that they pad, and is padded or the
same (`Pads.run`); a quotient is always the same decimal. It is not so the other way round: zeros
are digits, and there may be too many of them.

The text of a number, if it shows all its places, is read as the number without zeros at its end
(`Pads.reread`).
-/

import Reckoner.Proofs.Decimal.Power

namespace Reckoner

namespace Decimal

/-- `x` is `y` with more zeros at its end, or with as many; a zero has either sign. -/
def Pads (x y : Decimal) : Prop :=
  ∃ k : ℕ, x.coefficient = y.coefficient * 10 ^ k ∧ x.exponent + k = y.exponent ∧
    (x.negative = y.negative ∨ x.coefficient = 0)

/-- Twins pad each other by nothing. -/
theorem Twin.pads {x y : Decimal} (h : x.Twin y) : x.Pads y :=
  ⟨0, by rw [h.coefficient_eq, pow_zero, Nat.mul_one],
    by rw [h.exponent_eq, Nat.cast_zero, add_zero], h.negative_eq⟩

namespace Pads

/-- A decimal pads itself. -/
theorem refl (x : Decimal) : x.Pads x := (Twin.refl x).pads

variable {x y : Decimal}

/-- Padding lowers the exponent. -/
theorem exponent_le (h : x.Pads y) : x.exponent ≤ y.exponent := by
  obtain ⟨k, -, hk, -⟩ := h
  omega

/-- Padding makes the coefficient greater. -/
theorem coefficient_le (h : x.Pads y) : y.coefficient ≤ x.coefficient := by
  obtain ⟨k, hk, -, -⟩ := h
  exact hk ▸ Nat.le_mul_of_pos_right _ (by positivity)

/-- Padding keeps whether the coefficient is zero. -/
theorem coefficient_eq_zero_iff (h : x.Pads y) : x.coefficient = 0 ↔ y.coefficient = 0 := by
  obtain ⟨k, hk, -, -⟩ := h
  rw [hk, Nat.mul_eq_zero, or_iff_left (by positivity)]

/-- Padding keeps zeros. -/
theorem isZero_eq (h : x.Pads y) : x.isZero = y.isZero := by
  rw [isZero, isZero, Bool.eq_iff_iff, beq_iff_eq, beq_iff_eq, h.coefficient_eq_zero_iff]

/-- The sign counts where there is something behind it. -/
theorem negative_eq (h : x.Pads y) (hzero : x.isZero = false) : x.negative = y.negative := by
  obtain ⟨-, -, -, hsign | hc⟩ := h
  · exact hsign
  · exact absurd hc (beq_eq_false_iff_ne.1 hzero)

/-- **Zeros at the end do not change the number.** -/
theorem toRat_eq (h : x.Pads y) : x.toRat = y.toRat := by
  obtain ⟨k, hk, hexponent, hsign⟩ := h
  have hsigned : signed x.negative x.coefficient = signed y.negative x.coefficient := by
    rcases hsign with hsign | hzero
    · rw [hsign]
    · rw [hzero, signed_zero, signed_zero]
  rw [toRat, toRat, hsigned, hk, signed_mul, ← hexponent, zpow_add₀ (by norm_num), zpow_natCast]
  push_cast
  ring

/-- The number and the room for zeros decide. -/
theorem of_toRat_eq (h : x.toRat = y.toRat) (he : x.exponent ≤ y.exponent) : x.Pads y := by
  obtain ⟨k, hk⟩ := Int.eq_ofNat_of_zero_le (show 0 ≤ y.exponent - x.exponent by omega)
  have hexponent : x.exponent + k = y.exponent := by omega
  refine ⟨k, ?_, hexponent, ?_⟩
  · have habs : |x.toRat| = |y.toRat| := congrArg _ h
    rw [abs_toRat, abs_toRat, ← hexponent, zpow_add₀ (by norm_num), mul_comm (10 ^ x.exponent : ℚ),
      ← mul_assoc, zpow_natCast] at habs
    exact_mod_cast mul_right_cancel₀ (zpow_ne_zero _ (by norm_num)) habs
  · by_cases hx : x.coefficient = 0
    · exact .inr hx
    · have hy : y.coefficient ≠ 0 := by
        rwa [Ne, ← toRat_eq_zero_iff, ← h, toRat_eq_zero_iff]
      exact .inl (by rw [← decide_toRat_neg hx, ← decide_toRat_neg hy, h])

/-- Zeros at the end can be taken off until there are none or the decimal is an integer. -/
theorem exists_unpadded (he : x.exponent ≤ 0) (hne : x.coefficient ≠ 0) :
    ∃ y, x.Pads y ∧ y.exponent ≤ 0 ∧ (y.exponent = 0 ∨ ¬10 ∣ y.coefficient) := by
  have hrest := Digits.not_dvd_strip (Nat.pos_of_ne_zero hne)
  have hcoefficient := (Digits.strip_spec x.coefficient).symm
  generalize (Digits.strip x.coefficient).1 = rest at hrest hcoefficient
  generalize (Digits.strip x.coefficient).2 = zeros at hcoefficient
  obtain ⟨places, hplaces⟩ := Int.eq_ofNat_of_zero_le (show 0 ≤ -x.exponent by omega)
  rcases Nat.lt_or_ge zeros places with h | h
  · refine ⟨⟨x.negative, rest, x.exponent + zeros⟩, ⟨zeros, ?_, rfl, .inl rfl⟩, ?_, .inr hrest⟩
    · exact hcoefficient
    · change x.exponent + zeros ≤ 0
      omega
  · obtain ⟨more, rfl⟩ := Nat.exists_eq_add_of_le h
    refine ⟨⟨x.negative, rest * 10 ^ more, 0⟩, ⟨places, ?_, ?_, .inl rfl⟩, le_rfl, .inl rfl⟩
    · rw [hcoefficient, pow_add]
      ring
    · change x.exponent + places = 0
      omega

/-- Padding keeps the place of the first digit. -/
theorem width_add (h : x.Pads y) (hzero : x.isZero = false) :
    (x.width : ℤ) + x.exponent = y.width + y.exponent := by
  obtain ⟨k, hk, hexponent, -⟩ := h
  have hne : y.coefficient ≠ 0 := fun h0 =>
    beq_eq_false_iff_ne.1 hzero (by rw [hk, h0, Nat.zero_mul])
  rw [width, width, hk, Digits.count_mul_pow hne, ← hexponent, Nat.cast_add]
  ring

/-- The leading digit stands at one place. -/
theorem adjusted_eq (h : x.Pads y) (hzero : x.isZero = false) : x.adjusted = y.adjusted := by
  have := h.width_add hzero
  rw [adjusted, adjusted]
  omega

/-- Padding makes the coefficient longer. -/
theorem width_le (h : x.Pads y) : y.width ≤ x.width := Digits.count_le_of_le h.coefficient_le

/-- What an explicit decimal pads is explicit, if it has no positive exponent. -/
theorem explicit (h : x.Pads y) (hx : x.Explicit) (he : y.exponent ≤ 0) : y.Explicit :=
  ⟨hx.lowest_le.trans h.exponent_le, he, h.width_le.trans hx.width_le⟩

/-- At lower exponents, the coefficients are apart by as many zeros as the exponents. -/
theorem coefficientAt_eq (h : x.Pads y) {e : ℤ} (he : e ≤ x.exponent) {j : ℕ}
    (hj : e + j ≤ y.exponent) : x.coefficientAt e = y.coefficientAt (e + j) * 10 ^ j := by
  obtain ⟨k, hk, hexponent, -⟩ := h
  rw [Decimal.coefficientAt_eq, Decimal.coefficientAt_eq, hk, Nat.mul_assoc, Nat.mul_assoc,
    ← pow_add, ← pow_add,
    show k + (x.exponent - e).toNat = (y.exponent - (e + j)).toNat + j by omega]

/-- At a lower exponent, the coefficient of the padded decimal has as many zeros more. -/
theorem signedAt_eq (h : x.Pads y) {e : ℤ} (he : e ≤ x.exponent) {j : ℕ}
    (hj : e + j ≤ y.exponent) : x.signedAt e = y.signedAt (e + j) * (10 ^ j : ℕ) := by
  have hcoefficient := h.coefficientAt_eq he hj
  cases hzero : x.isZero with
  | true =>
    have hx : x.coefficient = 0 := beq_iff_eq.1 hzero
    rw [Decimal.signedAt_eq, Decimal.signedAt_eq, hx, h.coefficient_eq_zero_iff.1 hx, signed_zero,
      signed_zero, zero_mul, zero_mul, zero_mul]
  | false =>
    change signed x.negative (x.coefficientAt e) = signed y.negative (y.coefficientAt (e + j)) * _
    rw [hcoefficient, signed_mul, h.negative_eq hzero]

/-- What the padded decimal reaches, the other one does. -/
theorem reaches (h : x.Pads y) {e : ℤ} (he : e ≤ x.exponent) {j : ℕ} (hj : e + j ≤ y.exponent)
    (hx : x.reaches e) : y.reaches (e + j) := by
  rw [Decimal.reaches, Bool.or_eq_true, decide_eq_true_iff] at hx ⊢
  cases hzero : x.isZero with
  | true => exact .inl (h.isZero_eq.symm.trans hzero)
  | false =>
    have hwidth := h.width_add hzero
    have hx := hx.resolve_left (by rw [hzero]; exact Bool.false_ne_true)
    exact .inr (by omega)

/-! ### Texts -/

/-- A number that is displayed in full is written without zeros at its end. -/
theorem reread (he : x.exponent ≤ 0) (hsign : 0 ≤ x.toRat)
    (hwhole : ∃ n : ℤ, x.toRat * 10 ^ displayPlaces = n) : x.Pads x.reread := by
  obtain ⟨n, hn⟩ := hwhole
  have habs : |x.toRat| = (n.natAbs : ℕ) / 10 ^ displayPlaces := by
    rw [← Int.cast_natCast n.natAbs, Int.natCast_natAbs, Int.cast_abs, ← hn, abs_mul,
      abs_of_pos (show (0 : ℚ) < 10 ^ displayPlaces by positivity),
      mul_div_cancel_right₀ _ (by positivity)]
  have hunits := roundedUnits_of_abs_eq habs
  refine of_toRat_eq ?_ ?_
  · rw [toRat_reread hsign, roundHalfUp_of_nonneg _ hsign, hunits, ← habs, abs_of_nonneg hsign]
  · change x.exponent ≤ -((shownFraction displayPlaces _).length : ℤ)
    by_cases hfine : -(displayPlaces : ℤ) ≤ x.exponent
    · obtain ⟨p, hp⟩ := Int.eq_ofNat_of_zero_le (show 0 ≤ -x.exponent by omega)
      obtain ⟨j, hj⟩ := Nat.exists_eq_add_of_le (show p ≤ displayPlaces by omega)
      have hcoefficient := roundedUnits_of_abs_eq (abs_toRat_eq_div x hfine)
      have hlength := length_shownFraction_le p x.coefficient
      rw [hcoefficient, show (x.exponent + displayPlaces).toNat = j by omega, hj,
        shownFraction_mul_pow]
      omega
    · have hlength := length_shownFraction_le displayPlaces (roundedUnits displayPlaces x.toRat)
      omega

/-! ### Results -/

/-- Rounding at some exponent cuts zeros off or rounds alike. -/
theorem rounded (h : x.Pads y) (mode : Rounding) (unit : ℤ) :
    (rounded mode x unit).Pads (rounded mode y unit) := by
  obtain ⟨k, hk, hexponent, hsign⟩ := h
  rcases Int.lt_or_le x.exponent unit with hx | hx
  · rw [rounded_of_lt hx]
    have hnegative : x.negative = y.negative ∨
        mode.dropDigits x.negative x.coefficient (unit - x.exponent).toNat = 0 :=
      hsign.imp_right fun h0 => by rw [h0, Rounding.dropDigits_zero_left]
    rcases Int.lt_or_le y.exponent unit with hy | hy
    · rw [rounded_of_lt hy]
      refine ⟨0, ?_, Int.add_zero unit, hnegative⟩
      have hdigits : (unit - x.exponent).toNat = (unit - y.exponent).toNat + k := by omega
      rw [pow_zero, Nat.mul_one, hk, hdigits, Rounding.dropDigits_mul_pow]
      rcases hsign with hsign | hzero
      · rw [hsign]
      · have hzero : y.coefficient = 0 := by
          rwa [hk, Nat.mul_eq_zero, or_iff_left (by positivity)] at hzero
        rw [hzero, Rounding.dropDigits_zero_left, Rounding.dropDigits_zero_left]
    · rw [rounded_of_le hy]
      -- Only zeros are cut off, and some of them may be left.
      obtain ⟨i, hi⟩ := Int.eq_ofNat_of_zero_le (show 0 ≤ y.exponent - unit by omega)
      refine ⟨i, ?_, show unit + (i : ℤ) = y.exponent by omega, hnegative⟩
      have hdigits : k = i + (unit - x.exponent).toNat := by omega
      have hdropped := Rounding.dropDigits_mul_pow mode x.negative (y.coefficient * 10 ^ i) 0
        (unit - x.exponent).toNat
      rw [Nat.zero_add, Rounding.dropDigits_zero_right, Nat.mul_assoc, ← pow_add, ← hdigits,
        ← hk] at hdropped
      exact hdropped
  · rw [rounded_of_le hx, rounded_of_le (by omega)]
    exact ⟨k, hk, hexponent, hsign⟩

/-- What is brought into the range stays padded, and zeros fewer are no digits too many. -/
theorem finish {negative negative' : Bool} {n n' : ℕ} {e e' : ℤ}
    (h : Pads ⟨negative, n, e⟩ ⟨negative', n', e'⟩) (he : e' ≤ 0) {c : Decimal}
    (hc : Decimal.finish negative n e = .ok c) :
    ∃ c', Decimal.finish negative' n' e' = .ok c' ∧ c.Pads c' := by
  obtain ⟨hwidth, rfl⟩ := (finish_eq_ok_iff (h.exponent_le.trans he)).1 hc
  exact ⟨_, (finish_eq_ok_iff he).2 ⟨h.width_le.trans hwidth, rfl⟩, h.rounded .halfUp lowest⟩

/-! ### Operations -/

/-- Padding is kept by turning the sign. -/
theorem flip (h : x.Pads y) : x.flip.Pads y.flip := by
  obtain ⟨k, hk, hexponent, hsign⟩ := h
  exact ⟨k, hk, hexponent, hsign.imp_left (congrArg (!·))⟩

/-- Padding is kept by negation. -/
theorem negate (h : x.Pads y) : x.negate.Pads y.negate := by
  have hzero := h.isZero_eq
  obtain ⟨k, hk, hexponent, hsign⟩ := h
  refine ⟨k, hk, hexponent, hsign.imp_left fun hsign => ?_⟩
  rw [Decimal.negate, Decimal.negate, hsign, hzero]

variable {a b c a' b' : Decimal}

/-- The smaller of two exponents, and that without the zeros. -/
theorem exists_min_eq (ha : a.Pads a') (hb : b.Pads b') : ∃ (e : ℤ) (j : ℕ),
    min a.exponent b.exponent = e ∧ min a'.exponent b'.exponent = e + j ∧
      (e ≤ a.exponent ∧ e + j ≤ a'.exponent) ∧ e ≤ b.exponent ∧ e + j ≤ b'.exponent := by
  have hea := ha.exponent_le
  have heb := hb.exponent_le
  exact ⟨min a.exponent b.exponent,
    (min a'.exponent b'.exponent - min a.exponent b.exponent).toNat, by omega⟩

/-- Operands that can be lowered to one exponent can be so without the zeros. -/
theorem reaches_both (ha : a.Pads a') (hb : b.Pads b') {e : ℤ} {j : ℕ}
    (heA : e ≤ a.exponent ∧ e + j ≤ a'.exponent) (heB : e ≤ b.exponent ∧ e + j ≤ b'.exponent)
    (h : ¬(!a.reaches e || !b.reaches e) = true) :
    (!a'.reaches (e + j) || !b'.reaches (e + j)) = false := by
  rw [Bool.or_eq_true, not_or, Bool.not_eq_true', Bool.not_eq_false, Bool.not_eq_true',
    Bool.not_eq_false] at h
  rw [ha.reaches heA.1 heA.2 h.1, hb.reaches heB.1 heB.2 h.2]
  rfl

/-- **A sum of padded operands** is a padded sum. -/
theorem add (ha : a.Pads a') (hb : b.Pads b') (he : a'.exponent ≤ 0) (h : a.add b = .ok c) :
    ∃ c', a'.add b' = .ok c' ∧ c.Pads c' := by
  obtain ⟨e, j, hmin, hmin', ⟨hleA, hleA'⟩, hleB, hleB'⟩ := ha.exists_min_eq hb
  simp only [Decimal.add, hmin, hmin'] at h ⊢
  by_cases hreach : (!a.reaches e || !b.reaches e) = true
  · rw [if_pos hreach] at h
    cases h
  · rw [if_neg hreach] at h
    rw [ha.reaches_both hb ⟨hleA, hleA'⟩ ⟨hleB, hleB'⟩ hreach, if_neg Bool.false_ne_true]
    rw [ha.signedAt_eq hleA hleA', hb.signedAt_eq hleB hleB', ← add_mul] at h
    generalize a'.signedAt _ + b'.signedAt _ = sum at h ⊢
    have hpow : (0 : ℤ) < (10 ^ j : ℕ) := by positivity
    refine Pads.finish ⟨j, Int.natAbs_mul .., rfl, ?_⟩ (hleA'.trans he) h
    by_cases hzero : sum = 0
    · exact .inr (by simp only [hzero, zero_mul, Int.natAbs_zero])
    · have hneg : sum * (10 ^ j : ℕ) < 0 * (10 ^ j : ℕ) ↔ sum < 0 := mul_lt_mul_iff_left₀ hpow
      rw [zero_mul] at hneg
      exact .inl (by simp only [if_neg hzero, if_neg (mul_ne_zero hzero hpow.ne'), hneg])

/-- A product is padded by the zeros of both. -/
theorem times (ha : a.Pads a') (hb : b.Pads b') :
    Pads ⟨a.negative != b.negative, a.coefficient * b.coefficient, a.exponent + b.exponent⟩
      ⟨a'.negative != b'.negative, a'.coefficient * b'.coefficient, a'.exponent + b'.exponent⟩ := by
  obtain ⟨i, hi, hexponentA, hsignA⟩ := ha
  obtain ⟨j, hj, hexponentB, hsignB⟩ := hb
  refine ⟨i + j, ?_, ?_, ?_⟩
  · simp only [hi, hj, pow_add]
    ring
  · simp only [← hexponentA, ← hexponentB, Nat.cast_add]
    ring
  · rcases hsignA with hsignA | hzero
    · rcases hsignB with hsignB | hzero
      · exact .inl (by simp only [hsignA, hsignB])
      · exact .inr (by simp only [hzero, Nat.mul_zero])
    · exact .inr (by simp only [hzero, Nat.zero_mul])

/-- **A product of padded operands** is a padded product. -/
theorem multiply (ha : a.Pads a') (hb : b.Pads b') (hea : a'.exponent ≤ 0) (heb : b'.exponent ≤ 0)
    (h : a.multiply b = .ok c) : ∃ c', a'.multiply b' = .ok c' ∧ c.Pads c' :=
  (ha.times hb).finish (add_nonpos hea heb) h

/-- **A remainder of padded operands** is a padded remainder. -/
theorem modulo (ha : a.Pads a') (hb : b.Pads b') (h : a.modulo b = .ok c) :
    ∃ c', a'.modulo b' = .ok c' ∧ c.Pads c' := by
  obtain ⟨e, j, hmin, hmin', ⟨hleA, hleA'⟩, hleB, hleB'⟩ := ha.exists_min_eq hb
  simp only [Decimal.modulo, hmin, hmin', ← ha.isZero_eq, ← hb.isZero_eq] at h ⊢
  split_ifs at h with hzeroB hzeroA hsmall hlong hreach <;> cases h
  · rw [if_neg hzeroB, if_pos hzeroA]
    exact ⟨_, rfl, j, (Nat.zero_mul _).symm, rfl, .inr rfl⟩
  all_goals
    rw [Bool.not_eq_true] at hzeroA hzeroB
    rw [← ha.adjusted_eq hzeroA, ← hb.adjusted_eq hzeroB, hzeroA, hzeroB, if_neg Bool.false_ne_true,
      if_neg Bool.false_ne_true]
  · rw [if_pos hsmall]
    exact ⟨_, rfl, j, ha.coefficientAt_eq hleA hleA', rfl, .inl (ha.negative_eq hzeroA)⟩
  · rw [if_neg hsmall, if_neg hlong, ha.reaches_both hb ⟨hleA, hleA'⟩ ⟨hleB, hleB'⟩ hreach,
      if_neg Bool.false_ne_true]
    refine ⟨_, rfl, j, ?_, rfl, .inl (ha.negative_eq hzeroA)⟩
    simp only [ha.coefficientAt_eq hleA hleA', hb.coefficientAt_eq hleB hleB',
      Nat.mul_mod_mul_right]

/-! ### Quotients -/

/-- Zeros at the end scale the operands of a division, and change neither the whole units nor
whether anything is left over. -/
theorem wholeUnits_eq (ha : a.Pads a') (hb : b.Pads b') (hzeroB : b.isZero = false) (places : ℕ) :
    wholeUnits a b places = wholeUnits a' b' places := by
  have hbc : b.coefficient ≠ 0 := beq_eq_false_iff_ne.1 hzeroB
  rw [Decimal.wholeUnits_eq a hbc, Decimal.wholeUnits_eq a' (mt hb.coefficient_eq_zero_iff.2 hbc)]
  obtain ⟨i, hi, hexponentA, -⟩ := ha
  obtain ⟨j, hj, hexponentB, -⟩ := hb
  simp only [fraction, hi, hj]
  generalize hshift : a.exponent - b.exponent + (places : ℤ) = shift
  generalize hshift' : a'.exponent - b'.exponent + (places : ℤ) = shift'
  obtain ⟨t, hup, hdown⟩ : ∃ t, i + shift.toNat = shift'.toNat + t ∧
      j + (-shift).toNat = (-shift').toNat + t :=
    ⟨i + shift.toNat - shift'.toNat, by omega, by omega⟩
  have hpow : 0 < 10 ^ t := by positivity
  have hcut : ∀ r : ℕ, (r * 10 ^ t != 0) = (r != 0) := fun r => by
    rw [Bool.eq_iff_iff, bne_iff_ne, bne_iff_ne, Ne, Nat.mul_eq_zero, or_iff_left hpow.ne']
  simp only [Nat.mul_assoc, ← pow_add, hup, hdown]
  simp only [pow_add, ← Nat.mul_assoc, Nat.mul_div_mul_right _ _ hpow, Nat.mul_mod_mul_right, hcut]

/-- **A quotient is the same decimal.** -/
theorem divide_eq (ha : a.Pads a') (hb : b.Pads b') (settings : Settings) :
    divide settings a b = divide settings a' b' := by
  rw [divide, divide, ← ha.isZero_eq, ← hb.isZero_eq]
  cases hzeroB : b.isZero with
  | true => rfl
  | false =>
    simp only [ha.wholeUnits_eq hb hzeroB]
    cases hzeroA : a.isZero with
    | true => simp [wholeUnits, marked, ← ha.isZero_eq, hzeroA]
    | false =>
      rw [ha.adjusted_eq hzeroA, hb.adjusted_eq hzeroB, ha.negative_eq hzeroA,
        hb.negative_eq hzeroB]

/-! ### Powers -/

/-- Padding keeps whether a decimal is an integer. -/
theorem isInteger_eq (h : x.Pads y) (he : y.exponent ≤ 0) : x.isInteger = y.isInteger := by
  have hex := h.exponent_le.trans he
  obtain ⟨k, hk, hexponent, -⟩ := h
  rw [Bool.eq_iff_iff, isInteger_iff hex, isInteger_iff he, hk,
    show (-x.exponent).toNat = (-y.exponent).toNat + k by omega, pow_add,
    Nat.mul_dvd_mul_iff_right (by positivity)]

/-- Padding keeps the magnitude of an integer. -/
theorem integerPart_eq (h : x.Pads y) (he : y.exponent ≤ 0) : x.integerPart = y.integerPart := by
  have hex := h.exponent_le.trans he
  obtain ⟨k, hk, hexponent, -⟩ := h
  rw [Decimal.integerPart_eq hex, Decimal.integerPart_eq he, hk,
    show (-x.exponent).toNat = (-y.exponent).toNat + k by omega, pow_add,
    Nat.mul_div_mul_right _ _ (by positivity)]

/-- Padding keeps whether an integer exceeds a limit. -/
theorem exceeds_eq (h : x.Pads y) (he : y.exponent ≤ 0) (limit : ℕ) :
    x.exceeds limit = y.exceeds limit := by
  have hx : ¬(Digits.count limit : ℤ) < x.exponent := by have := h.exponent_le; omega
  have hy : ¬(Digits.count limit : ℤ) < y.exponent := by omega
  rw [exceeds, exceeds, h.isZero_eq, h.integerPart_eq he, decide_eq_false hx, decide_eq_false hy]

/-- Padding keeps the bound on the logarithm. -/
theorem logBound_eq (h : x.Pads y) (he : y.exponent ≤ 0) (hzero : x.isZero = false) (n : ℕ) :
    logBound x n = logBound y n := by
  have hex := h.exponent_le.trans he
  rw [logBound, logBound, h.adjusted_eq hzero]
  obtain ⟨k, hk, hexponent, -⟩ := h
  split_ifs
  · rfl
  · rfl
  · have hpow : 0 < 10 ^ k := by positivity
    have hunit : (-x.exponent).toNat = (-y.exponent).toNat + k := by omega
    have hgap : ∀ m u : ℕ, (if u * 10 ^ k ≤ m * 10 ^ k then m * 10 ^ k - u * 10 ^ k
        else u * 10 ^ k - m * 10 ^ k) = (if u ≤ m then m - u else u - m) * 10 ^ k := fun m u => by
      rw [ite_mul, Nat.sub_mul, Nat.sub_mul]
      exact if_congr (Nat.mul_le_mul_right_iff hpow) rfl rfl
    dsimp only
    rw [Digits.tenTo_eq, Digits.tenTo_eq, hunit, hk, pow_add, hgap, Nat.mul_min_mul_right,
      ← Nat.mul_assoc, ← Nat.mul_assoc, Nat.mul_div_mul_right _ _ hpow]

/-- **Each product on the way to a power is padded.** -/
theorem product (ha : a.Pads a') (hb : b.Pads b') (least : ℤ) :
    (product least a b).Pads (product least a' b') :=
  (ha.times hb).rounded .halfEven least

/-- The squarings of a padded base are padded. -/
theorem raise (h : x.Pads y) (least : ℤ) (n : ℕ) :
    (Decimal.raise least x n).Pads (Decimal.raise least y n) := by
  rw [Decimal.raise, Decimal.raise]
  generalize n.log2 = level
  induction level generalizing n with
  | zero => exact h
  | succ level ih =>
    have hsquare := (ih (n / 2)).product (ih (n / 2)) least
    rw [raiseAt, raiseAt]
    split_ifs
    · exact hsquare.product h least
    · exact hsquare

/-- The power of a padded decimal is padded. -/
theorem naturalPower (h : x.Pads y) (he : y.exponent ≤ 0) (hzero : x.isZero = false) {n : ℕ}
    (hn : n ≠ 0) (hc : Decimal.naturalPower x n = .ok c) :
    ∃ c', Decimal.naturalPower y n = .ok c' ∧ c.Pads c' := by
  have hex := h.exponent_le.trans he
  have hne : y.coefficient ≠ 0 := beq_eq_false_iff_ne.1 (h.isZero_eq.symm.trans hzero)
  -- What is certain to be below the least exponent is so with zeros and without.
  have hunder : (decide (y.adjusted < 0) && decide (x.exponent * n < lowest) &&
      decide ((-lowest).toNat < logBound y n)) = (decide (y.adjusted < 0) &&
        decide (y.exponent * n < lowest) && decide ((-lowest).toNat < logBound y n)) := by
    have hmul : x.exponent * n ≤ y.exponent * n :=
      mul_le_mul_of_nonneg_right h.exponent_le (Int.natCast_nonneg n)
    rw [Bool.eq_iff_iff]
    simp only [Bool.and_eq_true, decide_eq_true_iff]
    constructor
    · rintro ⟨⟨hadjusted, -⟩, hbound⟩
      exact ⟨⟨hadjusted, exponent_mul_lt_of_logBound hadjusted hne hbound⟩, hbound⟩
    · rintro ⟨⟨hadjusted, hlow⟩, hbound⟩
      exact ⟨⟨hadjusted, hmul.trans_lt hlow⟩, hbound⟩
  simp only [naturalPower_eq hex hn, naturalPower_eq he hn, h.adjusted_eq hzero,
    h.logBound_eq he hzero, hunder] at hc ⊢
  split_ifs at hc with hover hsmall hlong
  · cases hc
    exact ⟨_, by rw [if_neg hover, if_pos hsmall], 0, by rw [Nat.zero_mul], by simp, .inr rfl⟩
  · have hwidth : (y.width - 1) * n ≤ (x.width - 1) * n :=
      Nat.mul_le_mul_right n (Nat.sub_le_sub_right h.width_le 1)
    have hexponent := exponent_raise_nonpos ((leastOfProducts_le n).trans lowest_nonpos) he n
    rw [if_neg hover, if_neg hsmall, if_neg (by omega)]
    exact (h.raise (leastOfProducts n) n).finish hexponent hc

/-- **A whole power of a padded base** is a padded power. -/
theorem wholePower (h : x.Pads y) (he : y.exponent ≤ 0) {n : ℕ}
    (hc : Decimal.wholePower x n = .ok c) : ∃ c', Decimal.wholePower y n = .ok c' ∧ c.Pads c' := by
  rw [Decimal.wholePower] at hc ⊢
  rw [← h.isZero_eq]
  split_ifs at hc ⊢ with hn hzero
  · exact ⟨c, hc, .refl c⟩
  · cases hc
    exact ⟨_, rfl, 0, by rw [Nat.zero_mul], rfl, .inr rfl⟩
  · exact h.naturalPower he (Bool.eq_false_iff.2 hzero) hn hc

/-- **A power of padded operands** is a padded power, since a negative one is a quotient. -/
theorem power {settings : Settings} (ha : a.Pads a') (hb : b.Pads b') (hea : a'.exponent ≤ 0)
    (heb : b'.exponent ≤ 0) (h : Decimal.power settings a b = .ok c) :
    ∃ c', Decimal.power settings a' b' = .ok c' ∧ c.Pads c' := by
  have hsign : (b.negative && b'.integerPart != 0) = (b'.negative && b'.integerPart != 0) := by
    cases hzero : b.isZero with
    | true =>
      rw [integerPart, if_pos (hb.isZero_eq.symm.trans hzero), bne_self_eq_false, Bool.and_false,
        Bool.and_false]
    | false => rw [hb.negative_eq hzero]
  simp only [Decimal.power, hb.isInteger_eq heb, hb.exceeds_eq heb, hb.integerPart_eq heb,
    hsign] at h ⊢
  split_ifs at h ⊢
  · obtain ⟨p, hp, h⟩ := bind_eq_ok_iff.1 h
    obtain ⟨p', hp', hpads⟩ := ha.wholePower hea hp
    refine ⟨c, ?_, .refl c⟩
    rw [hp', ← h, (refl one).divide_eq hpads]
    rfl
  · obtain ⟨p, hp, h⟩ := bind_eq_ok_iff.1 h
    cases h
    obtain ⟨p', hp', hpads⟩ := ha.wholePower hea hp
    exact ⟨p', by rw [hp']; rfl, hpads⟩

/-- **What is computed from padded decimals is padded.** -/
theorem run {settings : Settings} {operation : Operation} (ha : a.Pads a') (hb : b.Pads b')
    (hea : a'.exponent ≤ 0) (heb : b'.exponent ≤ 0) (h : operation.run settings a b = .ok c) :
    ∃ c', operation.run settings a' b' = .ok c' ∧ c.Pads c' := by
  cases operation with
  | add => exact ha.add hb hea h
  | subtract => exact ha.add hb.flip hea h
  | multiply => exact ha.multiply hb hea heb h
  | divide => exact ⟨c, (ha.divide_eq hb settings).symm.trans h, .refl c⟩
  | modulo => exact ha.modulo hb h
  | power => exact ha.power hb hea heb h

end Pads
end Decimal
end Reckoner
