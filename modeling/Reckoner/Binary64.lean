/-
# Numbers in binary

A configuration may hold numbers with a fraction, and these are kept in binary: 53 bits and an
exponent of two from -1074 to 971. A decimal is read as the nearest such number, halves going to the
even one, and a number is written with the fewest decimal digits that are read as it again; of those
the nearest to it.

| number | text |
| --- | --- |
| from 0.0001 up to below 10^16 | all digits, with at least one after the point |
| other finite ones | one digit before the point, exponents of two digits or more: `2.5e-07` |
| not finite | `inf`, `-inf`, `nan` |
-/

import Reckoner.Decimal.Rounding

namespace Reckoner

/-- A number in binary. Finite ones are `±units * 2 ^ exponent`. -/
inductive Binary64 where
  | finite (negative : Bool) (units : Nat) (exponent : Int)
  | infinite (negative : Bool)
  | notANumber
  deriving DecidableEq

namespace Binary64

/-! ### Reading -/

/-- The least exponent of two. -/
def lowest : Int := -1074

/-- The greatest exponent of two. -/
def highest : Int := 971

/-- The number nearest to `±numerator / denominator`. -/
def ofRatio (negative : Bool) (numerator denominator : Nat) : Binary64 :=
  let unitsAt (q : Int) : Nat × Nat :=
    (numerator * Digits.twoTo (-q).toNat, denominator * Digits.twoTo q.toNat)
  let least := max lowest ((numerator.log2 : Int) - denominator.log2 - 53)
  let (n, d) := unitsAt least
  let q := if n / d < Digits.twoTo 53 then least else least + 1
  let (n, d) := unitsAt q
  let m := Rounding.halfEven.quotient false n d
  let (m, q) := if m = Digits.twoTo 53 then (Digits.twoTo 52, q + 1) else (m, q)
  if highest < q then .infinite negative else .finite negative m q

/-- The number nearest to `±coefficient * 10 ^ exponent`. What lies far outside the range is settled
without its powers. -/
def ofDecimal (negative : Bool) (coefficient : Nat) (exponent : Int) : Binary64 :=
  let magnitude := exponent + Digits.count coefficient
  if coefficient = 0 ∨ magnitude < -400 then .finite negative 0 lowest
  else if 400 < magnitude then .infinite negative
  else ofRatio negative (coefficient * Digits.tenTo exponent.toNat) (Digits.tenTo (-exponent).toNat)

/-! ### The shortest digits -/

/-- The exponent of the leading decimal digit of `n / d`, for positive `n` and `d`. -/
def leadingExponent (n d : Nat) : Int :=
  if d ≤ n then Digits.count (n / d) - 1 else -(Digits.count ((d + n - 1) / n - 1) : Int)

/-- A positive number in quarters of its unit: its value, and the ends of the interval of what is
read as it. Below a power of two the neighbour is nearer. -/
def quarters (units : Nat) (exponent : Int) : Nat × Nat × Nat :=
  (4 * units, 4 * units - (if units = Digits.twoTo 52 ∧ lowest < exponent then 1 else 2),
    4 * units + 2)

/-- A decimal of `digits` digits that is read as `units * 2 ^ exponent`, if there is one: the nearer
of the two multiples of a power of ten next to it, and of equally near ones the even. -/
def decimalOf? (units : Nat) (exponent : Int) (digits : Nat) : Option (Nat × Int) :=
  let (value, low, high) := quarters units exponent
  let q := exponent - 2
  let lead := leadingExponent (value * Digits.twoTo q.toNat) (Digits.twoTo (-q).toNat)
  let grid := lead - digits + 1
  let step := Digits.tenTo grid.toNat * Digits.twoTo (-q).toNat
  let quarter := Digits.tenTo (-grid).toNat * Digits.twoTo q.toNat
  let reads (c : Nat) : Bool :=
    if units % 2 = 0 then low * quarter ≤ c * step && c * step ≤ high * quarter
    else low * quarter < c * step && c * step < high * quarter
  let below := value * quarter / step
  let above := below + 1
  match reads below, reads above with
  | true, true =>
    let nearest := Rounding.halfEven.quotient false (value * quarter) step
    some (nearest, grid)
  | true, false => some (below, grid)
  | false, true => some (above, grid)
  | false, false => none

/-- The shortest digits of a positive number without trailing zeros, and the exponent of the last
one. Seventeen digits always suffice. -/
def shortest (units : Nat) (exponent : Int) : Nat × Int :=
  let found := (List.range 17).findSome? fun n => decimalOf? units exponent (n + 1)
  let (coefficient, grid) := found.getD (units, 0)
  let (coefficient, zeros) := Digits.strip coefficient
  (coefficient, grid + zeros)

/-! ### Writing -/

/-- The text of the digits of `coefficient`, the last of which has the given exponent. -/
def layOut (coefficient : Nat) (exponent : Int) : String :=
  let digits := Digits.toChars coefficient
  let point := digits.length + exponent
  let zeros (n : Int) : List Char := List.replicate n.toNat '0'
  if -4 < point ∧ point ≤ 16 then
    let whole := if 0 < point then digits.take point.toNat ++ zeros exponent else ['0']
    let fraction :=
      if exponent < 0 then zeros (-point) ++ digits.drop point.toNat else ['0']
    String.ofList (whole ++ '.' :: fraction)
  else
    let fraction := if digits.length = 1 then [] else '.' :: digits.drop 1
    let power := Digits.toChars (point - 1).natAbs
    let power := if power.length < 2 then '0' :: power else power
    String.ofList (digits.take 1 ++ fraction ++ 'e' :: (if point < 1 then '-' else '+') :: power)

/-- The text of a number. -/
def text : Binary64 → String
  | finite negative units exponent =>
    let body :=
      if units = 0 then "0.0"
      else
        let (coefficient, grid) := shortest units exponent
        layOut coefficient grid
    if negative then "-" ++ body else body
  | infinite negative => if negative then "-inf" else "inf"
  | notANumber => "nan"

end Binary64
end Reckoner
