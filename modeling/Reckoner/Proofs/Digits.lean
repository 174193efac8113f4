/-
# The digits are those of base ten

`Reckoner.Digits` counts, writes and strips digits by halving the number. Each of these functions is
here shown to agree with the digits written one at a time: `toChars` with `Nat.toDigits 10`
(`toChars_eq`), `count` with their number (`count_eq`), `ofChars` with `Nat.ofDigitChars 10` on
digits (`ofChars_eq`), and `strip` cuts off a power of ten (`strip_spec`).

A fixed number of digits, leading zeros included, is `lowDigits`. The digits of a number are those
of its upper part followed by those of its lower one (`toDigits_append_lowDigits`), which is what
lets a point be put between them.
-/

import Mathlib.Data.List.Basic
import Mathlib.Tactic.IntervalCases
import Mathlib.Tactic.Positivity
import Mathlib.Tactic.Ring
import Reckoner.Digits

namespace Reckoner
namespace Digits

/-- The powers of ten that are computed with. -/
@[simp] theorem tenTo_eq (k : ℕ) : tenTo k = 10 ^ k := rfl

/-- The scales are the powers of ten by the powers of two. -/
@[simp] theorem scale_eq (k : ℕ) : scale k = 10 ^ 2 ^ k := rfl

/-- The powers of two that are computed with. -/
@[simp] theorem twoTo_eq (k : ℕ) : twoTo k = 2 ^ k := rfl

/-- Each scale is the square of the one before. -/
theorem scale_succ (k : ℕ) : scale (k + 1) = scale k * scale k := by
  rw [scale_eq, scale_eq, pow_succ 2 k, pow_mul, sq]

/-- No scale is zero. -/
theorem scale_pos (k : ℕ) : 0 < scale k := by
  rw [scale_eq]; positivity

/-- The upper half of a number is below the scale of the halves. -/
theorem div_scale_lt {k n : ℕ} (h : n < scale (k + 1)) : n / scale k < scale k := by
  rw [scale_succ] at h
  exact Nat.div_lt_of_lt_mul h

/-- The character of a digit is that of the library. -/
theorem toChar_eq {d : ℕ} (h : d < 10) : toChar d = Nat.digitChar d := by
  interval_cases d <;> rfl

/-! ### A fixed number of digits -/

/-- The lowest `k` digits of `n`, leading zeros included. -/
def lowDigits : ℕ → ℕ → List Char
  | 0, _ => []
  | k + 1, n => lowDigits k (n / 10) ++ [Nat.digitChar (n % 10)]

/-- There are as many low digits as are asked for. -/
@[simp] theorem length_lowDigits (k n : ℕ) : (lowDigits k n).length = k := by
  induction k generalizing n with
  | zero => rfl
  | succ k ih => rw [lowDigits, List.length_append, ih, List.length_singleton]

/-- Low digits split into an upper and a lower part. -/
theorem lowDigits_add (i j n : ℕ) :
    lowDigits (i + j) n = lowDigits i (n / 10 ^ j) ++ lowDigits j n := by
  induction j generalizing n with
  | zero => rw [pow_zero, Nat.div_one, lowDigits, List.append_nil, Nat.add_zero]
  | succ j ih =>
    rw [← Nat.add_assoc, lowDigits, ih, lowDigits, List.append_assoc, Nat.div_div_eq_div_mul,
      pow_succ']

/-- Low digits do not see what is above them. -/
theorem lowDigits_mod (k n : ℕ) : lowDigits k (n % 10 ^ k) = lowDigits k n := by
  induction k generalizing n with
  | zero => rfl
  | succ k ih =>
    rw [lowDigits, lowDigits, Nat.mod_mod_of_dvd n (Dvd.intro_left _ (pow_succ 10 k).symm),
      pow_succ', Nat.mod_mul_right_div_self, ih]

/-- The low digits of zero are zeros. -/
theorem lowDigits_zero (k : ℕ) : lowDigits k 0 = List.replicate k '0' := by
  induction k with
  | zero => rfl
  | succ k ih => rw [lowDigits, Nat.zero_div, ih, List.replicate_succ']; rfl

/-- A multiple of a power of ten ends in zeros. -/
theorem lowDigits_mul_pow (i j n : ℕ) :
    lowDigits (i + j) (n * 10 ^ j) = lowDigits i n ++ List.replicate j '0' := by
  rw [lowDigits_add, Nat.mul_div_cancel _ (by positivity), ← lowDigits_mod j (n * 10 ^ j),
    Nat.mul_mod_left, lowDigits_zero]

/-- The digits of a number of two parts are those of the upper one, then those of the lower one. -/
theorem toDigits_append_lowDigits {a : ℕ} (ha : 0 < a) (k n : ℕ) :
    Nat.toDigits 10 a ++ lowDigits k n = Nat.toDigits 10 (a * 10 ^ k + n % 10 ^ k) := by
  induction k generalizing n with
  | zero => rw [lowDigits, pow_zero, Nat.mod_one, List.append_nil, Nat.mul_one, Nat.add_zero]
  | succ k ih =>
    have hlow : n % 10 ^ (k + 1) = n % 10 + 10 * (n / 10 % 10 ^ k) := by
      rw [pow_succ', Nat.mod_mul]
    have hpos : 0 < a * 10 ^ k := by positivity
    have hsum : a * 10 ^ (k + 1) + n % 10 ^ (k + 1) =
        10 * (a * 10 ^ k + n / 10 % 10 ^ k) + n % 10 := by
      rw [hlow, pow_succ]; ring
    rw [hsum, ← Nat.toDigits_append_toDigits (by decide) (by omega) (Nat.mod_lt n (by decide)),
      ← ih, Nat.toDigits_of_lt_base (Nat.mod_lt n (by decide)), lowDigits, List.append_assoc]

/-- The digits of a number without a lower part stand behind zeros. -/
theorem lowDigits_eq_replicate_append {k n : ℕ} (h : (Nat.toDigits 10 n).length ≤ k) :
    lowDigits k n = List.replicate (k - (Nat.toDigits 10 n).length) '0' ++ Nat.toDigits 10 n := by
  induction k generalizing n with
  | zero => exact absurd h (Nat.not_le.2 Nat.length_toDigits_pos)
  | succ k ih =>
    rw [lowDigits]
    rcases Nat.lt_or_ge n 10 with hn | hn
    · rw [Nat.toDigits_of_lt_base hn, Nat.div_eq_of_lt hn, lowDigits_zero, Nat.mod_eq_of_lt hn,
        List.length_singleton, Nat.add_sub_cancel]
    · have hlen := congrArg List.length (Nat.toDigits_of_base_le (by decide) hn)
      rw [List.length_append, List.length_singleton] at hlen
      rw [ih (by omega), hlen, Nat.toDigits_of_base_le (by decide) hn, List.append_assoc,
        Nat.add_sub_add_right]

/-- Low digits are digits. -/
theorem isDigit_of_mem_lowDigits {k n : ℕ} {c : Char} (h : c ∈ lowDigits k n) : c.isDigit := by
  induction k generalizing n with
  | zero => exact absurd h List.not_mem_nil
  | succ k ih =>
    rw [lowDigits, List.mem_append, List.mem_singleton] at h
    rcases h with h | rfl
    · exact ih h
    · rw [Nat.isDigit_digitChar, decide_eq_true_iff]
      exact Nat.mod_lt n (by decide)

/-! ### Counting and writing -/

/-- Digits that are counted by halving are as many as are written. -/
theorem countAt_eq {k n : ℕ} (h : n < scale k) : countAt k n = (Nat.toDigits 10 n).length := by
  induction k generalizing n with
  | zero => rw [countAt, Nat.toDigits_of_lt_base (by simpa using h), List.length_singleton]
  | succ k ih =>
    rw [countAt]
    split_ifs with hn
    · exact ih hn
    · have hpos : 0 < n / scale k := Nat.div_pos (Nat.not_lt.1 hn) (scale_pos k)
      have hsplit := toDigits_append_lowDigits hpos (2 ^ k) n
      rw [← scale_eq, Nat.div_add_mod'] at hsplit
      rw [ih (div_scale_lt h), ← hsplit, List.length_append, length_lowDigits, twoTo_eq]

/-- The number of digits is the length of the text. -/
theorem count_eq (n : ℕ) : count n = (Nat.toDigits 10 n).length := countAt_eq (lt_scale_level n)

/-- Each number has a digit. -/
theorem count_pos (n : ℕ) : 0 < count n := by
  rw [count_eq]; exact Nat.length_toDigits_pos

/-- A number has at most `k` digits if it is below `10 ^ k`. -/
theorem count_le_iff {n k : ℕ} (hk : 0 < k) : count n ≤ k ↔ n < 10 ^ k := by
  rw [count_eq]; exact Nat.length_toDigits_le_iff (by decide) hk

/-- A number is below the power of ten of its number of digits. -/
theorem lt_pow_count (n : ℕ) : n < 10 ^ count n := (count_le_iff (count_pos n)).1 le_rfl

/-- A greater number has no fewer digits. -/
theorem count_le_of_le {m n : ℕ} (h : m ≤ n) : count m ≤ count n :=
  (count_le_iff (count_pos n)).2 (h.trans_lt (lt_pow_count n))

/-- Zeros at the end add no more digits than they are. -/
theorem count_mul_pow_le (n k : ℕ) : count (n * 10 ^ k) ≤ count n + k := by
  rw [count_le_iff (Nat.add_pos_left (count_pos n) k), pow_add]
  exact Nat.mul_lt_mul_of_pos_right (lt_pow_count n) (by positivity)

/-- A number that is not zero reaches the power of ten below its number of digits. -/
theorem pow_le_of_count {n : ℕ} (h : n ≠ 0) : 10 ^ (count n - 1) ≤ n := by
  by_contra! hlt
  rcases Nat.eq_zero_or_pos (count n - 1) with hzero | hpos
  · rw [hzero, pow_zero] at hlt
    omega
  · have := (count_le_iff hpos).2 hlt
    have := count_pos n
    omega

/-- Zeros at the end are digits. -/
theorem count_mul_pow {n : ℕ} (hn : n ≠ 0) (k : ℕ) : count (n * 10 ^ k) = count n + k := by
  refine le_antisymm (count_mul_pow_le n k) ?_
  by_contra! hlt
  have hpos : n * 10 ^ k ≠ 0 := Nat.mul_ne_zero hn (by positivity)
  have hcount := count_pos n
  have hupper : n * 10 ^ k < 10 ^ (count n - 1 + k) :=
    (count_le_iff (by have := count_pos (n * 10 ^ k); omega)).1 (by omega)
  rw [pow_add] at hupper
  exact absurd (pow_le_of_count hn) (Nat.not_le.2 (Nat.lt_of_mul_lt_mul_right hupper))

/-- Digits that are written by halving, zeros included, are the low digits. -/
theorem padAt_eq (k n : ℕ) (rest : List Char) : padAt k n rest = lowDigits (2 ^ k) n ++ rest := by
  induction k generalizing n rest with
  | zero => rw [padAt, toChar_eq (Nat.mod_lt n (by decide))]; rfl
  | succ k ih =>
    rw [padAt, ih, ih, scale_eq, lowDigits_mod, pow_succ 2 k, Nat.mul_two, lowDigits_add,
      List.append_assoc]

/-- Digits that are written by halving, from the first one that counts, are those of the library. -/
theorem writeAt_eq {k n : ℕ} (h : n < scale k) (rest : List Char) :
    writeAt k n rest = Nat.toDigits 10 n ++ rest := by
  induction k generalizing n rest with
  | zero =>
    have hn : n < 10 := by simpa using h
    rw [writeAt, toChar_eq hn, Nat.toDigits_of_lt_base hn]; rfl
  | succ k ih =>
    rw [writeAt]
    split_ifs with hn
    · exact ih hn rest
    · have hpos : 0 < n / scale k := Nat.div_pos (Nat.not_lt.1 hn) (scale_pos k)
      have hsplit := toDigits_append_lowDigits hpos (2 ^ k) n
      rw [← scale_eq, Nat.div_add_mod'] at hsplit
      rw [ih (div_scale_lt h), padAt_eq, scale_eq, lowDigits_mod, ← List.append_assoc, ← scale_eq,
        hsplit]

/-- **What is written are the digits of base ten.** -/
theorem toChars_eq (n : ℕ) : toChars n = Nat.toDigits 10 n := by
  rw [toChars, writeAt_eq (lt_scale_level n), List.append_nil]

/-- The digits of a number come first among those of a multiple by a power of ten. -/
theorem toChars_prefix_mul_pow (n k : ℕ) : toChars n <+: toChars (n * 10 ^ k) := by
  rcases Nat.eq_zero_or_pos n with rfl | hn
  · rw [Nat.zero_mul]
  · have hdigits := toDigits_append_lowDigits hn k 0
    rw [Nat.zero_mod, Nat.add_zero, ← toChars_eq, ← toChars_eq] at hdigits
    exact ⟨_, hdigits⟩

/-! ### Reading -/

/-- A digit of ASCII is read as its number. -/
theorem ofChar?_of_isDigit {c : Char} (h : c.isDigit) : ofChar? c = some (c.toNat - 48) := by
  rw [ofChar?, if_pos]
  simpa [Char.isDigit, Char.le_def] using h

/-- On digits, reading is reading in base ten. -/
theorem ofChars_eq {cs : List Char} (h : ∀ c ∈ cs, c.isDigit) :
    ofChars cs = Nat.ofDigitChars 10 cs 0 := by
  refine List.foldl_ext _ _ 0 fun n c hc => ?_
  rw [ofChar?_of_isDigit (h c hc)]; rfl

/-- A list of characters writes no more digits than it has characters. -/
theorem ofChars_lt (cs : List Char) : ofChars cs < 10 ^ cs.length := by
  suffices h : ∀ n, cs.foldl (fun n c => (ofChar? c).elim n (10 * n + ·)) n + 1 ≤
      (n + 1) * 10 ^ cs.length by
    have := h 0
    rwa [Nat.zero_add, Nat.one_mul] at this
  induction cs with
  | nil => simp
  | cons c cs ih =>
    intro n
    have hstep : (ofChar? c).elim n (10 * n + ·) + 1 ≤ (n + 1) * 10 := by
      rw [ofChar?]
      split_ifs with hc
      · have := Char.le_def.1 hc.2
        have hnine : c.toNat ≤ 57 := this
        rw [Option.elim_some]
        omega
      · rw [Option.elim_none]
        omega
    rw [List.foldl_cons, List.length_cons, pow_succ', ← Nat.mul_assoc]
    exact (ih _).trans (Nat.mul_le_mul_right _ hstep)

/-- Low digits are read as what is left below them. -/
theorem ofDigitChars_lowDigits (k n : ℕ) : Nat.ofDigitChars 10 (lowDigits k n) 0 = n % 10 ^ k := by
  induction k generalizing n with
  | zero => rw [lowDigits, Nat.ofDigitChars_nil, pow_zero, Nat.mod_one]
  | succ k ih =>
    rw [lowDigits, Nat.ofDigitChars_append, ih,
      Nat.ofDigitChars_cons_digitChar_of_lt_ten (Nat.mod_lt n (by decide)), Nat.ofDigitChars_nil,
      pow_succ', Nat.mod_mul, Nat.add_comm]

/-! ### Stripping -/

/-- Zeros that are stripped by halving can be put back. -/
theorem stripAt_spec (k n : ℕ) : (stripAt k n).1 * 10 ^ (stripAt k n).2 = n := by
  induction k generalizing n with
  | zero => rw [stripAt, pow_zero, Nat.mul_one]
  | succ k ih =>
    rw [stripAt]
    split_ifs with hn
    · rw [pow_add, ← Nat.mul_assoc, ih, twoTo_eq, ← scale_eq]
      exact Nat.div_mul_cancel (Nat.dvd_of_mod_eq_zero hn)
    · exact ih n

/-- Stripping cuts off a power of ten. -/
theorem strip_spec (n : ℕ) : (strip n).1 * 10 ^ (strip n).2 = n := stripAt_spec (level n) n

/-- Of a number that the scale does not divide, no zero is left at the end. -/
theorem not_dvd_stripAt {k n : ℕ} (h : ¬scale k ∣ n) : ¬10 ∣ (stripAt k n).1 := by
  induction k generalizing n with
  | zero => exact h
  | succ k ih =>
    rw [stripAt]
    split_ifs with hn
    · refine ih fun hdvd => h ?_
      rw [scale_succ]
      exact (Nat.dvd_div_iff_mul_dvd (Nat.dvd_of_mod_eq_zero hn)).1 hdvd
    · exact ih fun hdvd => hn (Nat.mod_eq_zero_of_dvd hdvd)

/-- Stripping leaves no zero at the end. -/
theorem not_dvd_strip {n : ℕ} (h : 0 < n) : ¬10 ∣ (strip n).1 :=
  not_dvd_stripAt (Nat.not_dvd_of_pos_of_lt h (lt_scale_level n))

end Digits
end Reckoner
