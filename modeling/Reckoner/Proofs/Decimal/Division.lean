/-
# Division rounds the exact quotient

The eight modes as roundings of rational numbers to integers (`Rounding.toInt`) are these:

| mode | integer |
| --- | --- |
| `up`, `down` | the one away from zero, the one towards it |
| `ceiling`, `floor` | the one above, the one below |
| `halfUp`, `halfDown` | the nearest; between two the one away from zero, the one towards it |
| `halfEven` | the nearest; between two the even one |
| `zeroFiveUp` | the one towards zero; if its last digit is 0 or 5, the one away from zero |

A magnitude is rounded behind its sign, by its whole units and its tail; `toInt_signed` says that
this is the same. A quotient is then the rounded quotient of the rational numbers of its operands,
in units of `10 ^ -places`, and is written without zeros at its end (`Trimmed`).
-/

import Reckoner.Proofs.Decimal.Exactness

namespace Reckoner

/-- The integer next to a number, away from zero. -/
def awayFromZero (q : ℚ) : ℤ := if q < 0 then ⌊q⌋ else ⌈q⌉

/-- The integer nearest to a number; between two of them, `tie`. -/
def nearest (q : ℚ) (tie : ℤ) : ℤ :=
  if Int.fract q < 1 / 2 then ⌊q⌋ else if 1 / 2 < Int.fract q then ⌈q⌉ else tie

namespace Rounding

/-- A number rounded to an integer. -/
def toInt (mode : Rounding) (q : ℚ) : ℤ :=
  match mode with
  | up => awayFromZero q
  | down => truncate q
  | ceiling => ⌈q⌉
  | floor => ⌊q⌋
  | halfUp => nearest q (awayFromZero q)
  | halfDown => nearest q (truncate q)
  | halfEven => nearest q (if Even ⌊q⌋ then ⌊q⌋ else ⌈q⌉)
  | zeroFiveUp => if 5 ∣ truncate q then awayFromZero q else truncate q

/-- An integer is not rounded. -/
theorem toInt_intCast (mode : Rounding) (n : ℤ) : mode.toInt n = n := by
  cases mode <;> simp [toInt, nearest, awayFromZero, truncate]

/-! ### Between two integers -/

/-- The tail of a remainder is the size of its part of a unit. -/
theorem ofRemainder_cases {r d : ℕ} (h0 : r ≠ 0) (hd : 0 < d) :
    Tail.ofRemainder r d = .underHalf ∧ (r : ℚ) / d < 1 / 2 ∨
      Tail.ofRemainder r d = .half ∧ (r : ℚ) / d = 1 / 2 ∨
        Tail.ofRemainder r d = .overHalf ∧ 1 / 2 < (r : ℚ) / d := by
  have hd' : (0 : ℚ) < d := by exact_mod_cast hd
  rw [Tail.ofRemainder, if_neg h0, div_lt_iff₀ hd', div_eq_iff hd'.ne', lt_div_iff₀ hd']
  rcases lt_trichotomy (2 * r) d with h | h | h
  · have : (2 * r : ℚ) < d := by exact_mod_cast h
    exact .inl ⟨if_pos h, by linarith⟩
  · have : (2 * r : ℚ) = d := by exact_mod_cast h
    exact .inr (.inl ⟨by rw [if_neg h.not_lt, if_pos h], by linarith⟩)
  · have : (d : ℚ) < 2 * r := by exact_mod_cast h
    exact .inr (.inr ⟨by rw [if_neg h.le.not_gt, if_neg h.ne'], by linarith⟩)

/-- A number whose magnitude is between `k` and `k + 1`, and what is next to it. -/
structure Between (q : ℚ) (negative : Bool) (k : ℕ) (tail : Tail) : Prop where
  tail_ne : tail ≠ .nothing
  floor_eq : ⌊q⌋ = if negative then -(k + 1 : ℤ) else k
  ceil_eq : ⌈q⌉ = if negative then -(k : ℤ) else k + 1
  truncate_eq : truncate q = Decimal.signed negative k
  awayFromZero_eq : awayFromZero q = Decimal.signed negative (k + 1)
  nearest_eq (tie : ℤ) : nearest q tie =
    if tail = .half then tie else Decimal.signed negative (if tail = .overHalf then k + 1 else k)

/-- What is nearest on the other side of zero. -/
theorem nearest_neg {q : ℚ} (hq : Int.fract q ≠ 0) (tie : ℤ) :
    nearest (-q) tie = -nearest q (-tie) := by
  rw [nearest, nearest, Int.fract_neg hq, Int.floor_neg, Int.ceil_neg]
  rcases lt_trichotomy (Int.fract q) (1 / 2) with h | h | h
  · rw [if_neg (by linarith), if_pos (by linarith), if_pos h]
  · rw [h, if_neg (by norm_num), if_neg (by norm_num), if_neg (lt_irrefl _),
      if_neg (lt_irrefl _), neg_neg]
  · rw [if_pos (by linarith), if_neg h.not_gt, if_pos h]

/-- The magnitude `k + f` lies between `k` and one more, as the tail of its part says. -/
theorem between_of_part {k : ℕ} {f : ℚ} {tail : Tail} (h0 : 0 < f) (h1 : f < 1)
    (hcases : tail = .underHalf ∧ f < 1 / 2 ∨ tail = .half ∧ f = 1 / 2 ∨
      tail = .overHalf ∧ 1 / 2 < f) : Between (k + f) false k tail := by
  have hpos : 0 < k + f := by positivity
  have hfloor : ⌊(k : ℚ) + f⌋ = k := Int.floor_eq_iff.2 (by push_cast; constructor <;> linarith)
  have hceil : ⌈(k : ℚ) + f⌉ = k + 1 := Int.ceil_eq_iff.2 (by push_cast; constructor <;> linarith)
  have hfract : Int.fract ((k : ℚ) + f) = f := by rw [Int.fract, hfloor]; push_cast; ring
  refine ⟨?_, hfloor, hceil, ?_, ?_, fun tie => ?_⟩
  · rcases hcases with ⟨rfl, -⟩ | ⟨rfl, -⟩ | ⟨rfl, -⟩ <;> nofun
  · rw [truncate, if_neg hpos.not_gt, hfloor]
    rfl
  · rw [awayFromZero, if_neg hpos.not_gt, hceil]
    rfl
  · rw [nearest, hfract, hfloor, hceil]
    rcases hcases with ⟨rfl, h⟩ | ⟨rfl, h⟩ | ⟨rfl, h⟩
    · rw [if_pos h]
      rfl
    · rw [h, if_neg (lt_irrefl _), if_neg (lt_irrefl _), if_pos rfl]
    · rw [if_neg h.not_gt, if_pos h]
      rfl

/-- The same between two integers on the other side of zero. -/
theorem Between.neg {q : ℚ} {k : ℕ} {tail : Tail} (h : Between q false k tail) (hpos : 0 < q)
    (hq : Int.fract q ≠ 0) : Between (-q) true k tail where
  tail_ne := h.tail_ne
  floor_eq := by rw [Int.floor_neg, h.ceil_eq]; rfl
  ceil_eq := by rw [Int.ceil_neg, h.floor_eq]; rfl
  truncate_eq := by
    rw [truncate, if_pos (neg_neg_of_pos hpos), Int.ceil_neg, h.floor_eq]
    rfl
  awayFromZero_eq := by
    rw [awayFromZero, if_pos (neg_neg_of_pos hpos), Int.floor_neg, h.ceil_eq]
    rfl
  nearest_eq tie := by
    rw [nearest_neg hq, h.nearest_eq]
    split_ifs
    · exact neg_neg tie
    · rfl
    · rfl

/-- A fraction with a remainder lies between its whole units and one more, as its tail says. -/
theorem between_of_remainder (negative : Bool) (k : ℕ) {r d : ℕ} (h0 : r ≠ 0) (h1 : r < d) :
    Between (Decimal.signed negative 1 * (k + r / d)) negative k (Tail.ofRemainder r d) := by
  have hd : (0 : ℚ) < d := by exact_mod_cast Nat.zero_lt_of_lt h1
  have hpart : (0 : ℚ) < r / d := div_pos (by exact_mod_cast Nat.pos_of_ne_zero h0) hd
  have hpart' : (r : ℚ) / d < 1 := (div_lt_one hd).2 (by exact_mod_cast h1)
  have hbetween : Between ((k : ℚ) + r / d) false k (Tail.ofRemainder r d) :=
    between_of_part hpart hpart' (ofRemainder_cases h0 (Nat.zero_lt_of_lt h1))
  cases negative with
  | false => rwa [Decimal.signed, if_neg Bool.false_ne_true, Nat.cast_one, Int.cast_one, one_mul]
  | true =>
    have hfract : Int.fract ((k : ℚ) + r / d) ≠ 0 := by
      rw [Int.fract_natCast_add, Int.fract_eq_self.2 ⟨hpart.le, hpart'⟩]
      exact hpart.ne'
    rw [Decimal.signed, if_pos rfl, Nat.cast_one, Int.cast_neg, Int.cast_one, neg_one_mul]
    exact hbetween.neg (by positivity) hfract

/-- **A number between two integers** goes to the one that its sign, whole units and tail decide. -/
theorem Between.toInt_eq {q : ℚ} {negative : Bool} {k : ℕ} {tail : Tail}
    (h : Between q negative k tail) (mode : Rounding) :
    mode.toInt q = Decimal.signed negative (mode.settle negative k tail) := by
  have htail : (tail != .nothing) = true := bne_iff_ne.2 h.tail_ne
  cases mode with
  | up => rw [toInt, h.awayFromZero_eq, settle, away, if_pos htail]
  | down => rw [toInt, h.truncate_eq, settle, away, if_neg Bool.false_ne_true]
  | ceiling =>
    rw [toInt, h.ceil_eq, settle, away, htail]
    cases negative <;> rfl
  | floor =>
    rw [toInt, h.floor_eq, settle, away, htail]
    cases negative <;> rfl
  | halfUp =>
    rw [toInt, h.nearest_eq, h.awayFromZero_eq, settle, away]
    cases tail <;> rfl
  | halfDown =>
    rw [toInt, h.nearest_eq, h.truncate_eq, settle, away]
    cases tail <;> rfl
  | halfEven =>
    rw [toInt, h.nearest_eq, h.floor_eq, h.ceil_eq, settle, away]
    cases tail with
    | half =>
      rcases Nat.even_or_odd k with hk | hk
      · have hmod := Nat.even_iff.1 hk
        cases negative <;> simp [hk, hmod, Decimal.signed, parity_simps]
      · have hmod := Nat.odd_iff.1 hk
        cases negative <;> simp [hk, hmod, Decimal.signed, parity_simps]
    | _ => rfl
  | zeroFiveUp =>
    have hfive : 5 ∣ Decimal.signed negative k ↔ (k % 5 == 0) = true := by
      rw [beq_iff_eq, ← Nat.dvd_iff_mod_eq_zero]
      cases negative <;> simp [Decimal.signed, ← Int.natCast_dvd_natCast]
    rw [toInt, h.truncate_eq, h.awayFromZero_eq, settle, away, htail, Bool.true_and]
    simp only [hfive]
    split_ifs <;> rfl

end Rounding

namespace Decimal

/-- **Rounding a fraction behind its sign** is rounding the number. -/
theorem toInt_signed (mode : Rounding) (negative : Bool) (n : ℕ) {d : ℕ} (hd : 0 < d) :
    mode.toInt (signed negative n / d) = signed negative (mode.quotient negative n d) := by
  have hd' : (0 : ℚ) < d := by exact_mod_cast hd
  have hsplit : (n : ℚ) = d * (n / d : ℕ) + (n % d : ℕ) := by
    exact_mod_cast (Nat.div_add_mod n d).symm
  have hsigned : ∀ m : ℕ, ((signed negative m : ℤ) : ℚ) = signed negative 1 * m := fun m => by
    rw [← Nat.one_mul m, signed_mul]
    push_cast
    ring
  have hq : (signed negative n : ℚ) / d =
      signed negative 1 * ((n / d : ℕ) + (n % d : ℕ) / d) := by
    rw [hsigned, hsplit]
    field_simp
  rw [hq, Rounding.quotient]
  by_cases hr : n % d = 0
  · rw [hr, Nat.cast_zero, zero_div, add_zero, ← hsigned, Rounding.toInt_intCast,
      Tail.ofRemainder, if_pos rfl, Rounding.settle_nothing]
  · exact (Rounding.between_of_remainder negative _ hr (Nat.mod_lt n hd)).toInt_eq mode

/-! ### Quotients -/

/-- The form of a quotient: an integer has exponent zero, and what is no integer has places without
a zero at its end. -/
inductive Trimmed (x : Decimal) : Prop
  | whole (integral : ∃ n : ℤ, x.toRat = n) (exponent_eq : x.exponent = 0)
  | places (not_integral : ¬∃ n : ℤ, x.toRat = n) (exponent_neg : x.exponent < 0)
      (last_ne : x.coefficient % 10 ≠ 0)

/-- Trimming keeps the number of the units. -/
theorem toRat_trimmed (negative : Bool) (units places : ℕ) :
    (trimmed negative units places).toRat = signed negative units / 10 ^ places := by
  have hpow : (10 : ℚ) ^ places ≠ 0 := by positivity
  rw [trimmed, Digits.tenTo_eq, eq_div_iff hpow]
  split_ifs with hmod
  · conv_rhs => rw [← Nat.div_mul_cancel (Nat.dvd_of_mod_eq_zero hmod), signed_mul]
    rw [toRat, zpow_zero, mul_one]
    push_cast
    rfl
  · conv_rhs => rw [← Digits.strip_spec units, signed_mul]
    rw [toRat, mul_assoc, ← zpow_natCast, ← zpow_add₀ (by norm_num), sub_add_cancel]
    push_cast
    rfl

/-- A decimal of exponent zero is an integer. -/
theorem integral_of_exponent_eq {x : Decimal} (h : x.exponent = 0) : ∃ n : ℤ, x.toRat = n :=
  ⟨_, by rw [toRat, h, zpow_zero, mul_one]⟩

/-- **What is trimmed has the form of a quotient.** -/
theorem trimmed_trimmed (negative : Bool) (units places : ℕ) :
    Trimmed (trimmed negative units places) := by
  by_cases hmod : units % 10 ^ places = 0
  · have hexponent : (trimmed negative units places).exponent = 0 := by
      rw [trimmed, Digits.tenTo_eq, if_pos hmod]
    exact .whole (integral_of_exponent_eq hexponent) hexponent
  · have hintegral : ¬∃ n : ℤ, (trimmed negative units places).toRat = n := by
      rintro ⟨n, hn⟩
      rw [toRat_trimmed, div_eq_iff (by positivity)] at hn
      have hmul : signed negative units = n * (10 ^ places : ℕ) := by exact_mod_cast hn
      have hdvd := Int.natAbs_dvd_natAbs.2 (Dvd.intro_left n hmul.symm)
      rw [natAbs_signed, Int.natAbs_natCast] at hdvd
      exact hmod (Nat.mod_eq_zero_of_dvd hdvd)
    refine .places hintegral ?_ ?_
    · exact lt_of_le_of_ne (trimmed_spec negative units places).2.1
        (mt integral_of_exponent_eq hintegral)
    · have hpos : 0 < units := Nat.pos_of_ne_zero fun h0 => hmod (by rw [h0, Nat.zero_mod])
      rw [trimmed, Digits.tenTo_eq, if_neg hmod]
      exact mt Nat.dvd_of_mod_eq_zero (Digits.not_dvd_strip hpos)

/-- A fraction behind its sign is the quotient in units. -/
theorem fraction_eq (a b : Decimal) (places : ℕ) :
    (signed (a.negative != b.negative) (fraction a b places).1 : ℚ) / (fraction a b places).2 =
      a.toRat / b.toRat * 10 ^ places := by
  have hsign : ∀ m n : ℕ, (signed (a.negative != b.negative) m : ℚ) / n =
      signed a.negative m / signed b.negative n := fun m n => by
    cases a.negative <;> cases b.negative <;> simp [signed, neg_div, div_neg]
  have hscale : ∀ shift : ℤ, (10 : ℚ) ^ shift = 10 ^ shift.toNat / 10 ^ (-shift).toNat :=
    fun shift => by
      rw [eq_div_iff (by positivity), ← zpow_natCast, ← zpow_natCast, ← zpow_add₀ (by norm_num)]
      congr 1
      omega
  rw [hsign, toRat, toRat, mul_div_mul_comm, mul_assoc, ← zpow_sub₀ (by norm_num), ← zpow_natCast,
    ← zpow_add₀ (by norm_num), hscale, fraction, signed_mul, signed_mul]
  push_cast
  rw [mul_div_mul_comm]

/-- What is divided is rounded in the mode of the settings. -/
theorem exists_toRat_divide {settings : Settings} (hplaces : settings.places.toNat ≤ 999999)
    {a b v : Decimal} (h : divide settings a b = .ok v) : ∃ mode, settings.rounding = some mode ∧
      v.toRat = mode.toInt (a.toRat / b.toRat * 10 ^ settings.places.toNat) /
        10 ^ settings.places.toNat := by
  have hkept : keptPlaces settings = settings.places.toNat :=
    min_eq_left (hplaces.trans (by decide))
  obtain ⟨hb, negative, mode, hmode, hsign, rfl⟩ := divide_eq_ok h
  rw [hkept] at hsign ⊢
  refine ⟨mode, hmode, ?_⟩
  rw [toRat_trimmed, ← fraction_eq, ← toInt_signed mode _ _ (fraction_pos a hb _)]
  by_cases ha : a.coefficient = 0
  · rw [fraction, ha, Nat.zero_mul, signed_zero, signed_zero]
  · rw [(hsign ha).1]

/-- **Division rounds once.** Dividing fails as an undefined operation for a divisor of zero alone,
and a quotient that there is has the exact quotient of the numbers, rounded in the mode, and no zero
at its end. -/
theorem divide_rounds {settings : Settings} {mode : Rounding}
    (hmode : settings.rounding = some mode) (hplaces : settings.places.toNat ≤ 999999)
    (a b : Decimal) :
    ((∃ fault reason, divide settings a b = .error fault ∧ fault.reason? = some reason) ↔
        b.toRat = 0) ∧
      (b.toRat = 0 → divide settings a b = .error .divisionByZero) ∧
      ∀ v, divide settings a b = .ok v →
        v.toRat = mode.toInt (a.toRat / b.toRat * 10 ^ settings.places.toNat) /
            10 ^ settings.places.toNat ∧
          v.Trimmed := by
  have hzero : b.toRat = 0 ↔ b.isZero := (toRat_eq_zero_iff b).trans beq_iff_eq.symm
  have hby : b.toRat = 0 → divide settings a b = .error .divisionByZero := fun h => by
    rw [divide, if_pos (hzero.1 h)]
  refine ⟨⟨?_, fun h => ⟨_, _, hby h, rfl⟩⟩, hby, fun v hv => ?_⟩
  · rintro ⟨fault, reason, hfault, hreason⟩
    by_contra hne
    rw [hzero] at hne
    simp only [divide, if_neg hne, hmode] at hfault
    split_ifs at hfault <;> cases hfault <;> cases hreason
  · obtain ⟨mode', hmode', hvalue⟩ := exists_toRat_divide hplaces hv
    obtain rfl : mode = mode' := Option.some.inj (hmode.symm.trans hmode')
    obtain ⟨-, negative, mode', -, -, rfl⟩ := divide_eq_ok hv
    exact ⟨hvalue, trimmed_trimmed _ _ _⟩

/-- A hair above half a unit is not taken for half a unit, which would leave an even number. -/
theorem divide_rounds_near_tie :
    divide ⟨.number 2, some .halfEven, .number 0⟩ ⟨false, 125000001, -9⟩ one =
        .ok ⟨false, 13, -2⟩ ∧
      (⟨false, 13, -2⟩ : Decimal).toRat =
        Rounding.halfEven.toInt ((⟨false, 125000001, -9⟩ : Decimal).toRat / one.toRat * 10 ^ 2) /
          10 ^ 2 ∧
      Trimmed ⟨false, 13, -2⟩ :=
  have hdivide : divide ⟨.number 2, some .halfEven, .number 0⟩ ⟨false, 125000001, -9⟩ one =
      .ok ⟨false, 13, -2⟩ := by decide
  ⟨hdivide, (divide_rounds rfl (by decide) _ _).2.2 _ hdivide⟩

/-- A quotient is refused only for its size, or that of the dividend in units of one place more. -/
theorem exists_divide_iff {settings : Settings} {mode : Rounding}
    (hmode : settings.rounding = some mode) (hplaces : settings.places.toNat ≤ 999999)
    (a b : Decimal) :
    (∃ v, divide settings a b = .ok v) ↔ b.coefficient ≠ 0 ∧ (a.coefficient ≠ 0 →
      a.adjusted + settings.places.toNat + 1 ≤ highest ∧
        a.adjusted + settings.places.toNat + 1 - b.adjusted ≤ precision) := by
  have hshift : ¬maxShift < settings.places.toNat + 1 := by rw [maxShift]; omega
  have hmost : ¬maxPlaces < settings.places.toNat := by rw [maxPlaces]; omega
  simp only [divide, if_neg hshift, if_neg hmost, hmode, isZero, beq_iff_eq, Bool.and_eq_true,
    Bool.not_eq_true', beq_eq_false_iff_ne, decide_eq_true_iff]
  by_cases hb : b.coefficient = 0
  · simp [hb]
  · by_cases ha : a.coefficient = 0
    · simp [ha, hb]
    · simp only [ha, hb, if_false, ne_eq, not_false_iff, true_and, true_implies]
      split_ifs with hhigh hlong
      · exact iff_of_false (by simp) fun h => absurd h.1 (by omega)
      · exact iff_of_false (by simp) fun h => absurd h.2 (by omega)
      · exact iff_of_true ⟨_, rfl⟩ ⟨by omega, by omega⟩

end Decimal
end Reckoner
