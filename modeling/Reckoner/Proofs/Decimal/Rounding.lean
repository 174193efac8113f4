/-
# What a rounded quotient depends on

A mode looks at the whole units, the sign and the tail (`Rounding.settle`), and the tail is one of
four. So a quotient may be replaced by any other with the same whole units and a remainder on the
same side of half its divisor. One such is the quotient cut some digits further and marked
(`marked`): its last digits keep apart what is exact, what is a tie, and what is neither
(`quotient_marked`).
-/

import Reckoner.Decimal.Arithmetic
import Reckoner.Proofs.Digits

namespace Reckoner

/-- Remainders on the same side of half their divisors are one tail. -/
theorem Tail.ofRemainder_congr {r d r' d' : ℕ} (hzero : r = 0 ↔ r' = 0)
    (hunder : 2 * r < d ↔ 2 * r' < d') (hhalf : 2 * r = d ↔ 2 * r' = d') :
    ofRemainder r d = ofRemainder r' d' := by
  simp only [ofRemainder, hzero, hunder, hhalf]

namespace Rounding

/-- Without a tail nothing is added. -/
theorem settle_nothing (mode : Rounding) (negative : Bool) (kept : ℕ) :
    mode.settle negative kept .nothing = kept := by
  cases mode <;> rfl

/-- Rounding goes up by one unit at most. -/
theorem settle_le (mode : Rounding) (negative : Bool) (kept : ℕ) (tail : Tail) :
    mode.settle negative kept tail ≤ kept + 1 := by
  rw [settle]
  split_ifs <;> omega

/-- Going up from half a unit on adds the whole units of twice the remainder and one unit. -/
theorem settle_halfUp (negative : Bool) (kept : ℕ) {r d : ℕ} (h : r < d) :
    halfUp.settle negative kept (Tail.ofRemainder r d) = kept + (2 * r + d) / (2 * d) := by
  have hunder : 2 * r < d → (2 * r + d) / (2 * d) = 0 := fun h => Nat.div_eq_of_lt (by omega)
  have hover : d ≤ 2 * r → (2 * r + d) / (2 * d) = 1 := fun h =>
    Nat.div_eq_of_lt_le (by omega) (by omega)
  rw [settle, away, Tail.ofRemainder]
  split_ifs <;> simp_all

/-- **Dropping digits** is dividing by the power of ten. -/
theorem dropDigits_eq (mode : Rounding) (negative : Bool) (n k : ℕ) :
    mode.dropDigits negative n k = mode.quotient negative n (10 ^ k) := by
  rw [dropDigits, Digits.tenTo_eq]
  by_cases hcount : Digits.count n < k
  · have hle : 10 ^ (Digits.count n + 1) ≤ 10 ^ k := Nat.pow_le_pow_right (by decide) hcount
    have hlt := Digits.lt_pow_count n
    rw [pow_succ'] at hle
    rw [if_pos hcount, quotient, Nat.div_eq_of_lt (by omega), Nat.mod_eq_of_lt (by omega),
      Tail.ofRemainder, if_pos (show 2 * n < 10 ^ k by omega)]
  · rw [if_neg hcount]

/-- A common factor does not change a quotient. -/
theorem quotient_mul_right (mode : Rounding) (negative : Bool) (n d : ℕ) {m : ℕ} (hm : 0 < m) :
    mode.quotient negative (n * m) (d * m) = mode.quotient negative n d := by
  have htail : Tail.ofRemainder (n % d * m) (d * m) = Tail.ofRemainder (n % d) d := by
    refine Tail.ofRemainder_congr ?_ ?_ ?_
    · rw [Nat.mul_eq_zero, or_iff_left hm.ne']
    · rw [← Nat.mul_assoc, Nat.mul_lt_mul_right hm]
    · rw [← Nat.mul_assoc, Nat.mul_left_inj hm.ne']
  rw [quotient, Nat.mul_div_mul_right _ _ hm, Nat.mul_mod_mul_right, htail, quotient]

/-- **Zeros that are dropped first** leave the rest to be dropped. -/
theorem dropDigits_mul_pow (mode : Rounding) (negative : Bool) (n j k : ℕ) :
    mode.dropDigits negative (n * 10 ^ k) (j + k) = mode.dropDigits negative n j := by
  rw [dropDigits_eq, dropDigits_eq, pow_add, quotient_mul_right mode negative n _ (by positivity)]

/-- Dropping no digits leaves the number. -/
@[simp] theorem dropDigits_zero_right (mode : Rounding) (negative : Bool) (n : ℕ) :
    mode.dropDigits negative n 0 = n := by
  rw [dropDigits_eq, quotient, pow_zero, Nat.div_one, Nat.mod_one, Tail.ofRemainder, if_pos rfl,
    settle_nothing]

/-- Of zero nothing is left. -/
@[simp] theorem dropDigits_zero_left (mode : Rounding) (negative : Bool) (k : ℕ) :
    mode.dropDigits negative 0 k = 0 := by
  rw [dropDigits_eq, quotient, Nat.zero_div, Nat.zero_mod, Tail.ofRemainder, if_pos rfl,
    settle_nothing]

/-- Dropping digits leaves no greater number. -/
theorem dropDigits_le (mode : Rounding) (negative : Bool) {n : ℕ} (hn : n ≠ 0) (k : ℕ) :
    mode.dropDigits negative n k ≤ n := by
  rcases Nat.eq_zero_or_pos k with rfl | hk
  · rw [dropDigits_zero_right]
  · rw [dropDigits_eq, quotient]
    have hten : 10 ^ 1 ≤ 10 ^ k := Nat.pow_le_pow_right (by decide) hk
    have hdiv : n / 10 ^ k ≤ n / 10 := Nat.div_le_div_left hten (by decide)
    exact (settle_le ..).trans (by omega)

/-- Dropping digits half up is dividing by the power of ten to the nearest number. -/
theorem halfUp_dropDigits (negative : Bool) (n k : ℕ) :
    halfUp.dropDigits negative n k = (2 * n + 10 ^ k) / (2 * 10 ^ k) := by
  have hpow : 0 < 10 ^ k := by positivity
  have hsplit : 2 * n + 10 ^ k = 2 * 10 ^ k * (n / 10 ^ k) + (2 * (n % 10 ^ k) + 10 ^ k) := by
    have hdiv := Nat.div_add_mod n (10 ^ k)
    rw [Nat.mul_assoc]
    omega
  rw [dropDigits_eq, quotient, settle_halfUp negative _ (Nat.mod_lt n hpow), hsplit,
    Nat.mul_add_div (by omega)]

end Rounding

namespace Decimal

/-! ### Rounded decimals -/

section

variable {mode : Rounding} {x : Decimal} {unit : ℤ}

/-- A decimal that is no finer than the unit is kept. -/
theorem rounded_of_le (h : unit ≤ x.exponent) : rounded mode x unit = x := if_neg (not_lt.2 h)

/-- A finer decimal loses its digits below the unit. -/
theorem rounded_of_lt (h : x.exponent < unit) : rounded mode x unit =
    ⟨x.negative, mode.dropDigits x.negative x.coefficient (unit - x.exponent).toNat, unit⟩ :=
  if_pos h

/-- Where a rounded decimal stands. -/
theorem exponent_rounded (mode : Rounding) (x : Decimal) (unit : ℤ) :
    (rounded mode x unit).exponent = max unit x.exponent := by
  rcases Int.lt_or_le x.exponent unit with h | h
  · rw [rounded_of_lt h, max_eq_left h.le]
  · rw [rounded_of_le h, max_eq_right h]

end

/-! ### Marks -/

/-- The two forms of a marked number: nothing was cut off or the last digit tells, or one was added
to a last digit 0 or 5. -/
theorem marked_cases (units : ℕ) (cut : Bool) :
    marked units cut = units ∧ (cut = false ∨ units % 5 ≠ 0) ∨
      marked units cut = units + 1 ∧ cut = true ∧ units % 5 = 0 := by
  rw [marked]
  cases cut <;> by_cases h : units % 5 = 0 <;> simp [h]

/-- Upper digits do not change the mark. -/
theorem marked_add {units : ℕ} (h : 5 ∣ units) (rest : ℕ) (cut : Bool) :
    marked (units + rest) cut = units + marked rest cut := by
  have hmod : (units + rest) % 5 = rest % 5 := by omega
  rw [marked, marked, hmod]
  split_ifs <;> omega

/-- Marked units are zero only if there are none and nothing was cut off. -/
theorem marked_eq_zero_iff (units : ℕ) (cut : Bool) :
    marked units cut = 0 ↔ units = 0 ∧ cut = false := by
  rcases marked_cases units cut with ⟨h, hcut⟩ | ⟨h, hcut, -⟩
  · rw [h]
    exact ⟨fun hzero => ⟨hzero, hcut.resolve_right (by simp [hzero])⟩, And.left⟩
  · rw [h, hcut]
    exact ⟨nofun, nofun⟩

/-- **The marked digits of a part lie where it does:** at zero, under half, at half or over. -/
theorem marked_part {r d : ℕ} (h : r < d) (k : ℕ) :
    marked (r * 10 ^ (k + 1) / d) (r * 10 ^ (k + 1) % d != 0) < 10 ^ (k + 1) ∧
      Tail.ofRemainder (marked (r * 10 ^ (k + 1) / d) (r * 10 ^ (k + 1) % d != 0)) (10 ^ (k + 1)) =
        Tail.ofRemainder r d := by
  -- Half of the power of ten is a multiple of five, as is the whole.
  obtain ⟨half, hhalf, hpow⟩ : ∃ half, half % 5 = 0 ∧ 10 ^ (k + 1) = 2 * half :=
    ⟨5 * 10 ^ k, Nat.mul_mod_right _ _, by ring⟩
  have hpos : 0 < 10 ^ (k + 1) := by positivity
  rw [hpow] at hpos ⊢
  have hdiv := Nat.div_add_mod (r * (2 * half)) d
  have hmod := Nat.mod_lt (r * (2 * half)) (show 0 < d by omega)
  have hcut : (r * (2 * half) % d != 0) = false ↔ r * (2 * half) % d = 0 := bne_eq_false_iff_eq
  have hcut' : (r * (2 * half) % d != 0) = true ↔ r * (2 * half) % d ≠ 0 := bne_iff_ne
  have hcases := marked_cases (r * (2 * half) / d) (r * (2 * half) % d != 0)
  rw [hcut, hcut'] at hcases
  generalize marked (r * (2 * half) / d) (r * (2 * half) % d != 0) = u at hcases ⊢
  have hlt : r * (2 * half) / d < 2 * half := by
    rw [Nat.div_lt_iff_lt_mul (by omega), Nat.mul_comm r]
    exact Nat.mul_lt_mul_of_pos_left h hpos
  have hexact : ∀ q, r * (2 * half) = d * q ↔
      r * (2 * half) / d = q ∧ r * (2 * half) % d = 0 := fun q =>
    ⟨fun hq => by rw [hq]; exact ⟨Nat.mul_div_cancel_left q (by omega), Nat.mul_mod_right d q⟩,
      fun ⟨hq, hrest⟩ => by rw [← hdiv, hq, hrest, Nat.add_zero]⟩
  have hzero : r = 0 ↔ r * (2 * half) / d = 0 ∧ r * (2 * half) % d = 0 := by
    rw [← hexact, Nat.mul_zero, Nat.mul_eq_zero, or_iff_left hpos.ne']
  have hunder : 2 * r < d ↔ r * (2 * half) / d < half := by
    rw [Nat.div_lt_iff_lt_mul (by omega), show r * (2 * half) = half * (2 * r) by ring,
      Nat.mul_lt_mul_left (by omega)]
  have htie : 2 * r = d ↔ r * (2 * half) / d = half ∧ r * (2 * half) % d = 0 := by
    rw [← hexact, show r * (2 * half) = 2 * r * half by ring, Nat.mul_left_inj (by omega)]
  exact ⟨by omega, Tail.ofRemainder_congr (by omega) (by omega) (by omega)⟩

end Decimal

/-- **Rounding a marked quotient is rounding the quotient.** -/
theorem Rounding.quotient_marked (mode : Rounding) (negative : Bool) (n : ℕ) {d k : ℕ} (hd : 0 < d)
    (hk : 0 < k) :
    mode.quotient negative (Decimal.marked (n * 10 ^ k / d) (n * 10 ^ k % d != 0)) (10 ^ k) =
      mode.quotient negative n d := by
  obtain ⟨k, rfl⟩ := Nat.exists_eq_succ_of_ne_zero hk.ne'
  have hsplit : n * 10 ^ (k + 1) = d * (10 ^ (k + 1) * (n / d)) + n % d * 10 ^ (k + 1) := by
    conv_lhs => rw [← Nat.div_add_mod n d]
    ring
  obtain ⟨hlt, htail⟩ := Decimal.marked_part (Nat.mod_lt n hd) k
  have hfive : 5 ∣ 10 ^ (k + 1) * (n / d) :=
    Dvd.dvd.mul_right (dvd_pow (by decide) k.succ_ne_zero) _
  rw [hsplit, Nat.mul_add_div hd, Nat.mul_add_mod, Decimal.marked_add hfive, quotient, quotient,
    Nat.mul_add_div (by positivity), Nat.div_eq_of_lt hlt, Nat.add_zero, Nat.mul_add_mod,
    Nat.mod_eq_of_lt hlt, htail]

/-! ### Quotients of decimals -/

namespace Decimal

/-- `|a| / |b|` in units of `10 ^ -places`, as a fraction. -/
def fraction (a b : Decimal) (places : ℕ) : ℕ × ℕ :=
  (a.coefficient * 10 ^ (a.exponent - b.exponent + places).toNat,
    b.coefficient * 10 ^ (-(a.exponent - b.exponent + places)).toNat)

/-- The divisor of a quotient in units is not zero. -/
theorem fraction_pos (a : Decimal) {b : Decimal} (hb : b.coefficient ≠ 0) (places : ℕ) :
    0 < (fraction a b places).2 :=
  Nat.mul_pos (Nat.pos_of_ne_zero hb) (by positivity)

/-- More places scale the fraction. -/
theorem fraction_add (a b : Decimal) (places k : ℕ) : ∃ t,
    (fraction a b places).1 * 10 ^ k = (fraction a b (places + k)).1 * 10 ^ t ∧
      (fraction a b places).2 = (fraction a b (places + k)).2 * 10 ^ t := by
  simp only [fraction, Nat.mul_assoc, ← pow_add]
  generalize a.exponent - b.exponent = shift
  refine ⟨(shift + places).toNat + k - (shift + (places + k : ℕ)).toNat, ?_, ?_⟩
  · congr 2
    omega
  · congr 2
    omega

/-- What is computed of the fraction is its whole part. -/
theorem wholeUnits_eq (a : Decimal) {b : Decimal} (hb : b.coefficient ≠ 0) (places : ℕ) :
    wholeUnits a b places = ((fraction a b places).1 / (fraction a b places).2,
      (fraction a b places).1 % (fraction a b places).2 != 0) := by
  simp only [wholeUnits, fraction, Digits.tenTo_eq]
  generalize hshift : a.exponent - b.exponent + (places : ℤ) = shift
  split_ifs with hzero hsmall
  · rw [beq_iff_eq.1 hzero, Nat.zero_mul, Nat.zero_div, Nat.zero_mod]
    rfl
  · have hlt : a.coefficient * 10 ^ shift.toNat < b.coefficient * 10 ^ (-shift).toNat := by
      have hcounts : a.width + shift.toNat ≤ b.width - 1 + (-shift).toNat := by
        have := Digits.count_pos b.coefficient
        simp only [adjusted, width] at hsmall ⊢
        omega
      calc a.coefficient * 10 ^ shift.toNat < 10 ^ a.width * 10 ^ shift.toNat :=
            Nat.mul_lt_mul_of_pos_right (Digits.lt_pow_count _) (by positivity)
        _ = 10 ^ (a.width + shift.toNat) := (pow_add ..).symm
        _ ≤ 10 ^ (b.width - 1 + (-shift).toNat) := Nat.pow_le_pow_right (by decide) hcounts
        _ = 10 ^ (b.width - 1) * 10 ^ (-shift).toNat := pow_add ..
        _ ≤ b.coefficient * 10 ^ (-shift).toNat :=
          Nat.mul_le_mul_right _ (Digits.pow_le_of_count hb)
    have hne : a.coefficient * 10 ^ shift.toNat ≠ 0 :=
      Nat.mul_ne_zero (fun h0 => hzero (beq_iff_eq.2 h0)) (by positivity)
    rw [Nat.div_eq_of_lt hlt, Nat.mod_eq_of_lt hlt, bne_iff_ne.2 hne]
  · rfl

/-- **Rounding from the marked units is rounding the fraction.** -/
theorem dropDigits_marked (mode : Rounding) (negative : Bool) (a : Decimal) {b : Decimal}
    (hb : b.coefficient ≠ 0) (places : ℕ) {k : ℕ} (hk : 0 < k) :
    mode.dropDigits negative
        (marked (wholeUnits a b (places + k)).1 (wholeUnits a b (places + k)).2) k =
      mode.quotient negative (fraction a b places).1 (fraction a b places).2 := by
  obtain ⟨t, hnumerator, hdenominator⟩ := fraction_add a b places k
  have hpow : 0 < 10 ^ t := by positivity
  have hcut : ((fraction a b places).1 * 10 ^ k % (fraction a b places).2 != 0) =
      ((fraction a b (places + k)).1 % (fraction a b (places + k)).2 != 0) := by
    rw [hnumerator, hdenominator, Nat.mul_mod_mul_right, Bool.eq_iff_iff, bne_iff_ne, bne_iff_ne,
      Ne, Nat.mul_eq_zero, or_iff_left hpow.ne']
  rw [Rounding.dropDigits_eq, wholeUnits_eq a hb, ← hcut,
    ← Nat.mul_div_mul_right _ _ hpow, ← hnumerator, ← hdenominator,
    Rounding.quotient_marked mode negative _ (fraction_pos a hb places) hk]

/-- The marked units of what is not zero are not zero. -/
theorem marked_wholeUnits_ne_zero {a b : Decimal} (ha : a.coefficient ≠ 0) (hb : b.coefficient ≠ 0)
    (places : ℕ) : marked (wholeUnits a b places).1 (wholeUnits a b places).2 ≠ 0 := by
  rw [Ne, marked_eq_zero_iff, wholeUnits_eq a hb, bne_eq_false_iff_eq]
  rintro ⟨hdiv : (fraction a b places).1 / (fraction a b places).2 = 0, hmod⟩
  have hsplit := Nat.div_add_mod (fraction a b places).1 (fraction a b places).2
  rw [hdiv, hmod, Nat.mul_zero, Nat.add_zero] at hsplit
  exact Nat.mul_ne_zero ha (by positivity) hsplit.symm

/-- How many places a quotient keeps. -/
def keptPlaces (settings : Settings) : ℕ := min settings.places.toNat finestPlaces

/-- A quotient that was not refused. -/
theorem divide_eq_ok {settings : Settings} {a b c : Decimal} (h : divide settings a b = .ok c) :
    b.coefficient ≠ 0 ∧ ∃ negative mode, settings.rounding = some mode ∧
      (a.coefficient ≠ 0 → negative = (a.negative != b.negative) ∧
        a.adjusted + keptPlaces settings + 1 - b.adjusted ≤ precision) ∧
      c = trimmed negative (mode.quotient negative (fraction a b (keptPlaces settings)).1
        (fraction a b (keptPlaces settings)).2) (keptPlaces settings) := by
  simp only [divide] at h
  split_ifs at h with hb hshift hhigh hlong hplaces
  split at h
  · cases h
  · rename_i mode hmode
    have hb : b.coefficient ≠ 0 := fun h0 => hb (beq_iff_eq.2 h0)
    have hkept : keptPlaces settings ≤ settings.places.toNat := min_le_left _ _
    have hdrop := fun negative => dropDigits_marked mode negative a hb (keptPlaces settings)
      (show 0 < settings.places.toNat + 1 - keptPlaces settings by omega)
    have hne := fun ha : a.coefficient ≠ 0 =>
      marked_wholeUnits_ne_zero ha hb (settings.places.toNat + 1)
    rw [show keptPlaces settings + (settings.places.toNat + 1 - keptPlaces settings) =
      settings.places.toNat + 1 by omega] at hdrop
    generalize marked _ _ = guarded at h hdrop hne
    refine ⟨hb, a.negative != b.negative && guarded != 0, mode, hmode, fun ha => ⟨?_, ?_⟩, ?_⟩
    · rw [bne_iff_ne.2 (hne ha), Bool.and_true]
    · have hzero : a.isZero = false := beq_false_of_ne ha
      rw [hzero, Bool.not_false, Bool.true_and, decide_eq_true_iff] at hlong
      omega
    · rw [← hdrop]
      exact (Except.ok.inj h).symm

end Decimal
end Reckoner
