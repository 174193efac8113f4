/-
# The canonical text

What a decimal is displayed as is in canonical form (`Canonical`): no digit of it could be left out,
and zero has no sign. It is read as the number rounded half away from zero, and what is read is
displayed as the same text (`displayAt_canonical`). So a number has one text, and numbers that
differ once they are rounded have different ones.

| decimal | places | text | read as |
| --- | --- | --- | --- |
| `-9.996` | 2 | `-10` | `-10` |
| `-4E-7` | 3 | `0` | `0` |
| `12E+2` | 0 | `1200` | `1200` |
| `0.50` | 3 | `0.5` | `5E-1` |
-/

import Reckoner.Proofs.Decimal.Display
import Reckoner.Proofs.Scanning
import Reckoner.Proofs.Text

namespace Reckoner
namespace Decimal

/-- Digits around a point, and a sign in front of them. -/
def numeral (negative : Bool) (whole fraction : List Char) : List Char :=
  (if negative then ['-'] else []) ++ Token.pointed whole fraction

/-- A numeral with at most `places` digits behind the point, none of which could be left out. -/
structure Canonical (places : ℕ) (negative : Bool) (whole fraction : List Char) : Prop where
  whole_ne_nil : whole ≠ []
  isDigit_whole : ∀ c ∈ whole, c.isDigit
  isDigit_fraction : ∀ c ∈ fraction, c.isDigit
  /-- A zero in front stands alone. -/
  whole_eq_zero : whole.head? = some '0' → whole = ['0']
  length_fraction : fraction.length ≤ places
  /-- There is no zero at the end behind the point. -/
  fraction_last : fraction.getLast? ≠ some '0'
  /-- Zero has no sign. -/
  ne_zero : negative → ¬(whole = ['0'] ∧ fraction = [])

/-! ### What is displayed -/

/-- There is a finest unit, and none of the places considered here goes below it. -/
theorem unitOf_eq {places : ℕ} (h : places ≤ 999999) : unitOf places = .ok (-places) := by
  rw [unitOf, Int.natAbs_natCast, if_neg (by omega), if_neg (by omega),
    max_eq_right (by omega)]

/-- **The text of a decimal is that of its number.** -/
theorem displayAt_eq (x : Decimal) {places : ℕ} (h : places ≤ 999999) :
    x.displayAt places = .ok (shown places x.toRat) := by
  rw [displayAt, ← trimmedText_roundedTo]
  split_ifs with hexponent
  · rw [unitOf_eq h]
    rfl
  · rw [roundedTo, rounded_of_le (not_lt.1 hexponent)]
    rfl

/-- Only zero is written with a zero in front: any other number has fewer digits without it. -/
theorem toDigits_eq_of_head? {n : ℕ} (h : (Nat.toDigits 10 n).head? = some '0') :
    Nat.toDigits 10 n = ['0'] := by
  obtain ⟨cs, hcs⟩ := List.head?_eq_some_iff.1 h
  have hdigits : ∀ c ∈ cs, c.isDigit := fun c hc =>
    Nat.isDigit_of_mem_toDigits (by decide) (by decide) (hcs ▸ List.mem_cons_of_mem '0' hc)
  have hn : Digits.ofChars cs = n := by
    rw [Digits.ofChars_eq hdigits, ← Nat.ofDigitChars_ten_toDigits (n := n), hcs]
    rfl
  cases cs with
  | nil => exact hcs
  | cons c cs =>
    have hlt : n < 10 ^ (c :: cs).length := hn ▸ Digits.ofChars_lt (c :: cs)
    have hlength := (Nat.length_toDigits_le_iff (by decide) (Nat.succ_pos _)).2 hlt
    rw [hcs, List.length_cons] at hlength
    exact absurd hlength (Nat.not_succ_le_self _)

/-- The places that are shown do not end in a zero. -/
theorem getLast?_shownFraction (places n : ℕ) : (shownFraction places n).getLast? ≠ some '0' := by
  intro h
  have hne : shownFraction places n ≠ [] := by
    intro hnil
    rw [hnil] at h
    cases h
  rw [List.getLast?_eq_some_getLast hne, Option.some.injEq] at h
  exact List.rdropWhile_last_not _ _ hne (beq_iff_eq.2 h)

/-- The text of a number is the numeral of its units, with a minus unless they are zero. -/
theorem toList_shown (places : ℕ) (q : ℚ) : (shown places q).toList =
    numeral (q < 0 && roundedUnits places q != 0)
      (Nat.toDigits 10 (roundedUnits places q / 10 ^ places))
      (shownFraction places (roundedUnits places q)) := by
  rw [shown, assemble, String.toList_ofList, numeral, Token.pointed, List.append_assoc]

/-- **What is displayed is canonical.** -/
theorem canonical_shown (places : ℕ) (q : ℚ) :
    Canonical places (q < 0 && roundedUnits places q != 0)
      (Nat.toDigits 10 (roundedUnits places q / 10 ^ places))
      (shownFraction places (roundedUnits places q)) where
  whole_ne_nil := Nat.toDigits_ne_nil
  isDigit_whole c hc := Nat.isDigit_of_mem_toDigits (by decide) (by decide) hc
  isDigit_fraction c hc := isDigit_of_mem_shownFraction hc
  whole_eq_zero := toDigits_eq_of_head?
  length_fraction := length_shownFraction_le places _
  fraction_last := getLast?_shownFraction places _
  ne_zero := by
    intro hsign hzero
    obtain ⟨-, hne⟩ := Bool.and_eq_true_iff.1 hsign
    rw [toDigits_eq_zero_iff, shownFraction_eq_nil_iff] at hzero
    have hdiv := Nat.div_add_mod (roundedUnits places q) (10 ^ places)
    rw [hzero.1, hzero.2] at hdiv
    exact bne_iff_ne.1 hne (by omega)

/-! ### The characters of a numeral -/

/-- Whether `c` may stand in a numeral. -/
def isNumeralChar (c : Char) : Bool := c.isDigit || c == '.' || c == '-'

/-- The characters of a numeral are read as they are, and none of them begins an exponent. -/
theorem of_isNumeralChar {c : Char} (h : isNumeralChar c) :
    Text.isBlank c = false ∧ c ≠ '_' ∧ Text.plainDigit c = c ∧ c ≠ 'e' ∧ c ≠ 'E' := by
  rw [isNumeralChar, Bool.or_eq_true, Bool.or_eq_true, beq_iff_eq, beq_iff_eq] at h
  rcases h with (h | rfl) | rfl
  · obtain ⟨hlow, hhigh⟩ := Token.toNat_of_isDigit h
    rw [← Char.ofNat_toNat c]
    generalize c.toNat = n at hlow hhigh
    interval_cases n <;> decide
  · decide
  · decide

/-- The characters of a numeral are digits, a point and a minus. -/
theorem isNumeralChar_of_mem {negative : Bool} {whole fraction : List Char}
    (hwhole : ∀ c ∈ whole, c.isDigit) (hfraction : ∀ c ∈ fraction, c.isDigit) {c : Char}
    (h : c ∈ numeral negative whole fraction) : isNumeralChar c := by
  have hdigit {d : Char} (hd : d.isDigit) : isNumeralChar d := by
    rw [isNumeralChar, hd, Bool.true_or, Bool.true_or]
  rw [numeral, Token.pointed, List.mem_append, List.mem_append] at h
  rcases h with h | h | h
  · split_ifs at h
    · rw [List.mem_singleton.1 h]
      rfl
    · cases h
  · exact hdigit (hwhole c h)
  · split_ifs at h
    · cases h
    · rcases List.mem_cons.1 h with rfl | h
      · rfl
      · exact hdigit (hfraction c h)

/-- A text without blanks is not trimmed. -/
theorem trim_eq_self {cs : List Char} (h : ∀ c ∈ cs, Text.isBlank c = false) :
    Text.trim cs = cs :=
  Text.trim_eq_self_iff.2 ⟨fun c hc => h c (List.mem_of_mem_head? hc),
    fun c hc => h c (List.mem_of_getLast? hc)⟩

/-! ### Reading -/

variable {negative : Bool} {whole fraction : List Char}

/-- The sign of a numeral is read, and what is left is its magnitude. -/
theorem readSign_numeral (hne : whole ≠ []) (hwhole : ∀ c ∈ whole, c.isDigit) :
    readSign (numeral negative whole fraction) = (negative, Token.pointed whole fraction) := by
  cases negative with
  | true => rfl
  | false =>
    obtain ⟨c, cs, rfl⟩ := List.exists_cons_of_ne_nil hne
    have hc := hwhole c (List.mem_cons_self ..)
    rw [numeral, if_neg Bool.false_ne_true, List.nil_append, Token.pointed, List.cons_append]
    -- A digit is no sign.
    unfold readSign
    split
    · rename_i heq
      rw [(List.cons.inj heq).1] at hc
      cases hc
    · rename_i heq
      rw [(List.cons.inj heq).1] at hc
      cases hc
    · rfl

/-- Digits around a point are read as all of them, with as many places as are behind the point. -/
theorem readMagnitude?_pointed (hne : whole ≠ []) (hwhole : ∀ c ∈ whole, c.isDigit)
    (hfraction : ∀ c ∈ fraction, c.isDigit) : readMagnitude? (Token.pointed whole fraction) =
      some (Digits.ofChars (whole ++ fraction), -(fraction.length : ℤ)) := by
  have hspan : (Token.pointed whole fraction).span isDigit =
      (whole, if fraction.isEmpty then [] else '.' :: fraction) := by
    rw [List.span_eq_takeWhile_dropWhile, Token.pointed,
      List.takeWhile_append_of_pos (p := isDigit) hwhole,
      List.dropWhile_append_of_pos (p := isDigit) hwhole]
    cases fraction <;> simp [isDigit]
  have hrest : fraction.span isDigit = (fraction, []) := by
    rw [List.span_eq_takeWhile_dropWhile, List.takeWhile_eq_self_iff (p := isDigit).2 hfraction,
      List.dropWhile_eq_nil_iff (p := isDigit).2 hfraction]
  have hcoefficient : readCoefficient (Token.pointed whole fraction) = (whole, fraction, []) := by
    rw [readCoefficient, hspan]
    cases fraction with
    | nil => rfl
    | cons c cs => simp only [List.isEmpty_cons, Bool.false_eq_true, if_false, hrest]
  rw [readMagnitude?, hcoefficient]
  simp [hne, readExponent?]

/-- **A numeral is read as it stands.** -/
theorem ofText_numeral (hne : whole ≠ []) (hwhole : ∀ c ∈ whole, c.isDigit)
    (hfraction : ∀ c ∈ fraction, c.isDigit)
    (hrange : inRange ⟨negative, Digits.ofChars (whole ++ fraction), -(fraction.length : ℤ)⟩) :
    ofText (String.ofList (numeral negative whole fraction)) =
      .ok ⟨negative, Digits.ofChars (whole ++ fraction), -(fraction.length : ℤ)⟩ := by
  have hchars : ∀ c ∈ numeral negative whole fraction, isNumeralChar c :=
    fun c hc => isNumeralChar_of_mem hwhole hfraction hc
  have htrim : Text.trim (numeral negative whole fraction) = numeral negative whole fraction :=
    trim_eq_self fun c hc => (of_isNumeralChar (hchars c hc)).1
  have hfilter : (numeral negative whole fraction).filter (· != '_') =
      numeral negative whole fraction :=
    List.filter_eq_self.2 fun c hc => bne_iff_ne.2 (of_isNumeralChar (hchars c hc)).2.1
  have hmap : (numeral negative whole fraction).map Text.plainDigit =
      numeral negative whole fraction :=
    (List.map_congr_left fun c hc => (of_isNumeralChar (hchars c hc)).2.2.1).trans (List.map_id' _)
  rw [ofText, String.toList_ofList, htrim, hfilter, hmap, readSign_numeral hne hwhole]
  simp only [readMagnitude?_pointed hne hwhole hfraction, if_pos hrange]

/-- No canonical numeral is a zero with a sign. -/
theorem Canonical.numeral_ne {places : ℕ} (h : Canonical places negative whole fraction) :
    numeral negative whole fraction ≠ ['-', '0'] := by
  intro heq
  obtain ⟨c, cs, rfl⟩ := List.exists_cons_of_ne_nil h.whole_ne_nil
  cases negative with
  | true =>
    obtain ⟨rfl, hrest⟩ := List.cons.inj (List.cons.inj heq).2
    obtain ⟨rfl, hnil⟩ := List.append_eq_nil_iff.1 hrest
    refine h.ne_zero rfl ⟨rfl, ?_⟩
    cases fraction with
    | nil => rfl
    | cons d ds => cases hnil
  | false =>
    have hdigit := h.isDigit_whole c (List.mem_cons_self ..)
    rw [(List.cons.inj heq).1] at hdigit
    cases hdigit

/-- **The text is read as the rounded number.** -/
theorem exists_ofText_shown {q : ℚ} (h : |q| < 10 ^ wholeDigits) {places : ℕ}
    (hplaces : places ≤ 999999) :
    ∃ y, ofText (shown places q) = .ok y ∧ y.toRat = roundHalfUp places q := by
  have hcanonical := canonical_shown places q
  have hread := ofText_numeral hcanonical.whole_ne_nil hcanonical.isDigit_whole
    hcanonical.isDigit_fraction
    (inRange_shown h hplaces (q < 0 && roundedUnits places q != 0))
  rw [← toList_shown, String.ofList_toList] at hread
  refine ⟨_, hread, ?_⟩
  rw [toRat_of_shown_digits, roundHalfUp]
  by_cases hzero : roundedUnits places q = 0
  · rw [hzero, signed_zero, signed_zero]
  · rw [bne_iff_ne.2 hzero, Bool.and_true]

/-- Numbers have one text if they are rounded to one number. -/
theorem shown_eq_iff {q q' : ℚ} (h : |q| < 10 ^ wholeDigits) (h' : |q'| < 10 ^ wholeDigits)
    {places : ℕ} (hplaces : places ≤ 999999) :
    shown places q' = shown places q ↔ roundHalfUp places q' = roundHalfUp places q := by
  constructor
  · intro heq
    obtain ⟨y, hread, hy⟩ := exists_ofText_shown h hplaces
    obtain ⟨y', hread', hy'⟩ := exists_ofText_shown h' hplaces
    rw [heq, hread, Except.ok.injEq] at hread'
    rw [← hy, ← hy', hread']
  · intro heq
    rw [← shown_roundHalfUp, heq, shown_roundHalfUp]

/-- **Numbers are displayed canonically.** The text of a decimal is a canonical numeral, never `-0`
and never with an exponent. It is read as the number, rounded half away from zero, and what is read
is displayed as the same text. Two decimals have one text exactly if they round to one number. -/
theorem displayAt_canonical {x : Decimal} {places : ℕ} (hx : |x.toRat| < 10 ^ wholeDigits)
    (hplaces : places ≤ 999999) :
    ∃ text, x.displayAt places = .ok text ∧
      (∃ negative whole fraction, text.toList = numeral negative whole fraction ∧
        Canonical places negative whole fraction) ∧
      text ≠ "-0" ∧ (∀ c ∈ text.toList, c ≠ 'e' ∧ c ≠ 'E') ∧
      (∃ y, ofText text = .ok y ∧ y.toRat = roundHalfUp places x.toRat ∧
        y.displayAt places = .ok text) ∧
      ∀ x' : Decimal, |x'.toRat| < 10 ^ wholeDigits → (x'.displayAt places = .ok text ↔
        roundHalfUp places x'.toRat = roundHalfUp places x.toRat) := by
  have hcanonical := canonical_shown places x.toRat
  have htext := toList_shown places x.toRat
  obtain ⟨y, hread, hy⟩ := exists_ofText_shown hx hplaces
  refine ⟨shown places x.toRat, displayAt_eq x hplaces, ⟨_, _, _, htext, hcanonical⟩, ?_, ?_,
    ⟨y, hread, hy, ?_⟩, ?_⟩
  · intro hminus
    exact hcanonical.numeral_ne (htext.symm.trans (congrArg String.toList hminus))
  · intro c hc
    rw [htext] at hc
    exact (of_isNumeralChar (isNumeralChar_of_mem hcanonical.isDigit_whole
      hcanonical.isDigit_fraction hc)).2.2.2
  · rw [displayAt_eq y hplaces, hy, shown_roundHalfUp]
  · intro x' hx'
    rw [displayAt_eq x' hplaces, Except.ok.injEq, shown_eq_iff hx hx' hplaces]

/-- A carry into the whole digits, behind which no fraction is left. -/
theorem displayAt_canonical_carry :
    let x : Decimal := ⟨true, 9996, -3⟩
    |x.toRat| < 10 ^ wholeDigits ∧ x.displayAt 2 = .ok "-10" ∧ roundHalfUp 2 x.toRat = -10 ∧
      ∃ y, ofText "-10" = .ok y ∧ y.toRat = roundHalfUp 2 x.toRat ∧ y.displayAt 2 = .ok "-10" := by
  intro x
  have hrat : x.toRat = -9.996 := by norm_num [toRat, signed, x]
  have hx : |x.toRat| < 10 ^ wholeDigits := by
    calc |x.toRat| < 10 ^ 1 := by rw [hrat]; norm_num
      _ ≤ 10 ^ wholeDigits := pow_le_pow_right₀ (by norm_num) (Nat.one_le_pow _ _ (by decide))
  have hdisplay : x.displayAt (2 : ℕ) = .ok "-10" := by decide +kernel
  have hunits : roundedUnits 2 x.toRat = 1000 := by
    rw [roundedUnits, hrat, Nat.floor_eq_iff (by positivity)]
    norm_num
  have hrounded : roundHalfUp 2 x.toRat = -10 := by
    rw [roundHalfUp, hunits, hrat]
    norm_num [signed]
  obtain ⟨text, htext, -, -, -, hread, -⟩ := displayAt_canonical hx (show 2 ≤ 999999 by decide)
  obtain rfl := Except.ok.inj (hdisplay.symm.trans htext)
  exact ⟨hx, hdisplay, hrounded, hread⟩

end Decimal
end Reckoner
