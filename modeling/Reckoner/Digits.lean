/-
# The decimal digits of a natural number

Coefficients reach tens of thousands of digits, so digits are counted, written and stripped by
halving the number, never one digit at a time: at *level* `k` a number below `10 ^ 2 ^ k` is cut in
two at `10 ^ 2 ^ (k - 1)`. Every function recurses on the level, and `level n` is always high enough
for `n` (`lt_scale_level`).

| function | answer |
| --- | --- |
| `count n` | how many digits `n` is written with; zero has one |
| `toChars n` | those digits |
| `strip n` | `n` without its trailing zeros, and how many there were |
| `ofChars cs` | the number that a list of digits writes |
-/

namespace Reckoner
namespace Digits

/-- Ten to the power of `k`. -/
def tenTo (k : Nat) : Nat := Nat.pow 10 k

/-- Two to the power of `k`. -/
def twoTo (k : Nat) : Nat := Nat.pow 2 k

/-- The cut of level `k`. -/
def scale (k : Nat) : Nat := tenTo (twoTo k)

/-- A level whose scale is above `n`. -/
def level (n : Nat) : Nat := (n.log2 + 1).log2 + 1

/-- A number is below the scale of its level. -/
theorem lt_scale_level (n : Nat) : n < scale (level n) := by
  have h₁ : n < twoTo (n.log2 + 1) := Nat.lt_log2_self
  have h₂ : n.log2 + 1 < twoTo (level n) := Nat.lt_log2_self
  calc n < twoTo (n.log2 + 1) := h₁
    _ ≤ twoTo (twoTo (level n)) := Nat.pow_le_pow_right (by decide) (Nat.le_of_lt h₂)
    _ ≤ scale (level n) := Nat.pow_le_pow_left (by decide) _

/-- The character of a digit below ten. -/
def toChar (d : Nat) : Char := Char.ofNat (48 + d)

/-- Digits of a number below `scale k`. -/
def countAt : Nat → Nat → Nat
  | 0, _ => 1
  | k + 1, n => if n < scale k then countAt k n else countAt k (n / scale k) + twoTo k

/-- How many digits `n` is written with. -/
def count (n : Nat) : Nat := countAt (level n) n

/-- The lowest `2 ^ k` digits of `n`, leading zeros included, in front of `rest`. -/
def padAt : Nat → Nat → List Char → List Char
  | 0, n, rest => toChar (n % 10) :: rest
  | k + 1, n, rest => padAt k (n / scale k) (padAt k (n % scale k) rest)

/-- The digits of a number below `scale k` in front of `rest`, without leading zeros. -/
def writeAt : Nat → Nat → List Char → List Char
  | 0, n, rest => toChar n :: rest
  | k + 1, n, rest =>
    if n < scale k then writeAt k n rest else writeAt k (n / scale k) (padAt k (n % scale k) rest)

/-- The digits of `n`. -/
def toChars (n : Nat) : List Char := writeAt (level n) n []

/-- The digits of `n` as text. -/
def toText (n : Nat) : String := String.ofList (toChars n)

/-- The most digits of an integer that is read from a text or written as one. -/
def maxText : Nat := 4300

/-- The wording for an integer that has too many digits to be written. -/
def tooLong : String :=
  "Exceeds the limit (" ++ toText maxText ++
    " digits) for integer string conversion; use sys.set_int_max_str_digits() to increase the limit"

/-- Strips fewer than `2 ^ k` trailing zeros. -/
def stripAt : Nat → Nat → Nat × Nat
  | 0, n => (n, 0)
  | k + 1, n =>
    if n % scale k = 0 then
      let (m, zeros) := stripAt k (n / scale k)
      (m, zeros + twoTo k)
    else stripAt k n

/-- A positive `n` without its trailing zeros, and their number. -/
def strip (n : Nat) : Nat × Nat := stripAt (level n) n

/-- The digit that a character of ASCII writes. -/
def ofChar? (c : Char) : Option Nat :=
  if '0' ≤ c ∧ c ≤ '9' then some (c.toNat - 48) else none

/-- The number that a list of digits writes; characters that are no digits are passed over. -/
def ofChars (cs : List Char) : Nat :=
  cs.foldl (fun n c => (ofChar? c).elim n (10 * n + ·)) 0

/-- The digits of an integer behind its sign. -/
def signedText (n : Int) : String :=
  if n < 0 then "-" ++ toText n.natAbs else toText n.natAbs

end Digits
end Reckoner
