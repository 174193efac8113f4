/-
# Arithmetic on decimals

Sums, differences and remainders are exact, and so are products and whole powers with no digits
below `10 ^ lowest`. Finer ones are rounded there: a product once, half up, and a power twice
(`raise`). A quotient is rounded to the places that are asked for. The exponent of a result is part
of the answer:

| operation | exponent of the result, unless it is below `lowest` |
| --- | --- |
| `add`, `subtract`, `modulo` | the smaller of the two |
| `multiply` | their sum |
| `power` by `n > 0` | `n` times that of the base; zero if the base is zero |
| `divide`, `power` by `n < 0` | zero if the result is an integer, else minus its number of places |

A sum that cancels is plus zero unless both parts are negative; a negation of zero is plus zero; a
remainder has the sign of the dividend, also if it is zero.
-/

import Reckoner.Decimal.Settings

namespace Reckoner
namespace Decimal

/-- `n * 10 ^ k`; no power is raised for a zero. -/
def shiftLeft (n k : Nat) : Nat := if n = 0 then 0 else n * Digits.tenTo k

/-- The coefficient of `x` when its exponent is lowered to `e`. -/
def coefficientAt (x : Decimal) (e : Int) : Nat := shiftLeft x.coefficient (x.exponent - e).toNat

/-- Whether lowering the exponent of `x` to `e` stays within the digits of a decimal. -/
def reaches (x : Decimal) (e : Int) : Bool :=
  x.isZero || x.width + (x.exponent - e).toNat ≤ precision

/-- The signed coefficient of `x` when its exponent is lowered to `e`. -/
def signedAt (x : Decimal) (e : Int) : Int :=
  if x.negative then -(x.coefficientAt e : Int) else x.coefficientAt e

/-- The sum. -/
def add (a b : Decimal) : Except Fault Decimal :=
  let e := min a.exponent b.exponent
  if !a.reaches e || !b.reaches e then .error .tooManyDigits
  else
    let sum := a.signedAt e + b.signedAt e
    finish (if sum = 0 then a.negative && b.negative else sum < 0) sum.natAbs e

/-- The same magnitude with the other sign. -/
def flip (x : Decimal) : Decimal := { x with negative := !x.negative }

/-- The difference. -/
def subtract (a b : Decimal) : Except Fault Decimal := add a b.flip

/-- The product. -/
def multiply (a b : Decimal) : Except Fault Decimal :=
  finish (a.negative != b.negative) (a.coefficient * b.coefficient) (a.exponent + b.exponent)

/-- The negation; zero becomes plus zero. -/
def negate (x : Decimal) : Decimal := { x with negative := !x.negative && !x.isZero }

/-- The remainder of the quotient cut towards zero. -/
def modulo (a b : Decimal) : Except Fault Decimal :=
  let e := min a.exponent b.exponent
  if b.isZero then .error .divisionByZero
  else if a.isZero then .ok ⟨a.negative, 0, e⟩
  else if a.adjusted < b.adjusted then .ok ⟨a.negative, a.coefficientAt e, e⟩
  else if precision < (a.adjusted - b.adjusted).toNat then .error .quotientTooLong
  else if !a.reaches e || !b.reaches e then .error .tooManyDigits
  else .ok ⟨a.negative, a.coefficientAt e % b.coefficientAt e, e⟩

/-! ### Quotients -/

/-- The greatest shift of an exponent in one step. -/
def maxShift : Nat := 3999999999999999996

/-- The most places for which there is a unit of rounding. -/
def maxPlaces : Nat := 2000054

/-- The most places that a unit of rounding resolves; more are asked for in vain. -/
def finestPlaces : Nat := 1000026

/-- `|a| / |b|` in units of `10 ^ -places`, cut to a whole number, and whether anything was cut off.
Where the leading digits show a quotient below one unit, no power is raised. -/
def wholeUnits (a b : Decimal) (places : Nat) : Nat × Bool :=
  let shift := a.exponent - b.exponent + places
  if a.isZero then (0, false)
  else if a.adjusted + places < b.adjusted then (0, true)
  else
    let n := a.coefficient * Digits.tenTo shift.toNat
    let d := b.coefficient * Digits.tenTo (-shift).toNat
    (n / d, n % d != 0)

/-- A number of units with a mark for what was cut off. A last digit 0 or 5 could pass for an exact
multiple or for a tie of a coarser unit, so it goes up by one. -/
def marked (units : Nat) (cut : Bool) : Nat :=
  if cut && units % 5 == 0 then units + 1 else units

/-- A number of `units` of `10 ^ -places`, with exponent zero if it is an integer and without
trailing zeros if it is not. -/
def trimmed (negative : Bool) (units places : Nat) : Decimal :=
  if units % Digits.tenTo places = 0 then ⟨negative, units / Digits.tenTo places, 0⟩
  else
    let (units, zeros) := Digits.strip units
    ⟨negative, units, zeros - places⟩

/-- The quotient. It is cut at one place more than is kept, marked, and rounded from there. Scaling
the dividend by that many places may leave the range. -/
def divide (settings : Settings) (a b : Decimal) : Except Fault Decimal :=
  let places := settings.places.toNat
  if b.isZero then .error .divisionByZero
  else if maxShift < places + 1 then .error .invalid
  else if !a.isZero && highest < a.adjusted + places + 1 then .error .overflow
  else if !a.isZero && precision < (a.adjusted + places + 1 - b.adjusted).toNat then
    .error .quotientTooLong
  else if maxPlaces < places then .error .invalid
  else match settings.rounding with
    | none => .error .unknownRounding
    | some mode =>
      let kept := min places finestPlaces
      let (units, cut) := wholeUnits a b (places + 1)
      let guarded := marked units cut
      let negative := a.negative != b.negative && guarded != 0
      .ok (trimmed negative (mode.dropDigits negative guarded (places + 1 - kept)) kept)

/-! ### Powers -/

/-- Whether a decimal is an integer. A nonzero coefficient with no more digits than the exponent
takes away is below one. -/
def isInteger (x : Decimal) : Bool :=
  x.isZero || 0 ≤ x.exponent ||
    ((-x.exponent).toNat < x.width && x.coefficient % Digits.tenTo (-x.exponent).toNat == 0)

/-- The magnitude of an integer. -/
def integerPart (x : Decimal) : Nat :=
  if x.isZero then 0
  else x.coefficient * Digits.tenTo x.exponent.toNat / Digits.tenTo (-x.exponent).toNat

/-- Whether the integer `x` is greater than `limit` in magnitude. A nonzero integer whose exponent
exceeds the digits of the limit is greater. -/
def exceeds (x : Decimal) (limit : Nat) : Bool :=
  !x.isZero && ((Digits.count limit : Int) < x.exponent || limit < x.integerPart)

/-- A lower bound on `n` times the distance from zero of the decimal logarithm of `|x|`. Away from
one the leading digit gives it; near one, `1 + d ≥ 2 ^ d` does for `0 ≤ d ≤ 1`. -/
def logBound (x : Decimal) (n : Nat) : Nat :=
  if 1 ≤ x.adjusted then x.adjusted.toNat * n
  else if x.adjusted ≤ -2 then (-x.adjusted - 1).toNat * n
  else
    let unit := Digits.tenTo (-x.exponent).toNat
    let gap := if unit ≤ x.coefficient then x.coefficient - unit else unit - x.coefficient
    3 * n * min gap unit / (10 * unit)

/-- The power by a natural number, whatever its exponent is. -/
def repeated (x : Decimal) (n : Nat) : Decimal where
  negative := x.negative && n % 2 == 1
  coefficient := if x.coefficient = 1 then 1 else Nat.pow x.coefficient n
  exponent := x.exponent * n

/-- The product, rounded at the exponent `least` if its own is below, halves to the even side. -/
def product (least : Int) (a b : Decimal) : Decimal :=
  rounded .halfEven
    ⟨a.negative != b.negative, a.coefficient * b.coefficient, a.exponent + b.exponent⟩ least

/-- The power by a positive natural number of `level + 1` binary digits: they are gone through from
the highest one on, each squares what there is, and a one multiplies it by `x`. -/
def raiseAt (least : Int) (x : Decimal) : Nat → Nat → Decimal
  | 0, _ => x
  | level + 1, n =>
    let root := raiseAt least x level (n / 2)
    let square := product least root root
    if n % 2 = 1 then product least square x else square

/-- The power by a positive natural number, of which each product is rounded at `least`. -/
def raise (least : Int) (x : Decimal) (n : Nat) : Decimal := raiseAt least x n.log2 n

/-- The least exponent of the products of a power by `n`. They have two digits more than a result,
and as many more as `n` has. -/
def leastOfProducts (n : Nat) : Int := lowest - (Digits.count n + 2)

/-- The power of a nonzero decimal by a positive natural number. What is certain to leave the range
is not computed. What falls below the least exponent of its products is computed product by product,
and rounded a second time when it is brought into the range. -/
def naturalPower (x : Decimal) (n : Nat) : Except Fault Decimal :=
  let exponent := x.exponent * n
  if 0 ≤ x.adjusted && highest.toNat < logBound x n then .error .overflow
  else if x.adjusted < 0 && exponent < lowest && (-lowest).toNat < logBound x n then
    .ok ⟨x.negative && n % 2 == 1, 0, lowest⟩
  else if precision < (x.width - 1) * n then .error .tooManyDigits
  else
    let least := leastOfProducts n
    let p := if least ≤ exponent then x.repeated n else x.raise least n
    finish p.negative p.coefficient p.exponent

/-- The power by a natural number. -/
def wholePower (x : Decimal) (n : Nat) : Except Fault Decimal :=
  if n = 0 then .ok one
  else if x.isZero then .ok ⟨x.negative && n % 2 == 1, 0, 0⟩
  else naturalPower x n

/-- The power by an integer; a negative one is the rounded reciprocal of the positive one. -/
def power (settings : Settings) (base exponent : Decimal) : Except Fault Decimal :=
  if !exponent.isInteger then .error .nonIntegerExponent
  else if exponent.exceeds settings.maxExponent.toNat then
    .error (if settings.maxExponent.isTooLong then .limitTooLong
      else .exponentTooLarge settings.maxExponent)
  else do
    let n := exponent.integerPart
    let p ← wholePower base n
    if exponent.negative && n != 0 then divide settings one p else return p

end Decimal
end Reckoner
