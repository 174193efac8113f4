/-
# Decimal numbers and their range

A decimal is a sign, a coefficient and an exponent of ten, and these are kept apart: `1.50` and
`1.5` are equal numbers and different decimals, and zero has a sign and an exponent too. The range
is finite. `Decimal.finish` is the only way into it, and applies three rules:

| a result | becomes |
| --- | --- |
| of more than `precision` digits | `tooManyDigits` |
| of adjusted exponent above `highest` | `overflow`; a zero takes the exponent `highest` |
| of exponent below `lowest` | the nearest multiple of `10 ^ lowest`, halves away from zero |

Everything else is kept as it is.
-/

import Reckoner.Decimal.Rounding

namespace Reckoner

/-- The number `±coefficient * 10 ^ exponent`. -/
structure Decimal where
  negative : Bool
  coefficient : Nat
  exponent : Int
  deriving DecidableEq

/-- A count given in settings. A configuration file may write one as a truth value, which counts as
one or zero and is shown as it was written. -/
inductive Quantity where
  | number (n : Nat)
  | truth (b : Bool)
  deriving DecidableEq

/-- What a quantity counts as. -/
def Quantity.toNat : Quantity → Nat
  | number n => n
  | truth b => b.toNat

/-- Whether a quantity has too many digits to be shown. -/
def Quantity.isTooLong (q : Quantity) : Bool := Digits.maxText < Digits.count q.toNat

/-- A quantity as it is shown. -/
def Quantity.text : Quantity → String
  | number n => Digits.toText n
  | truth true => "True"
  | truth false => "False"

/-- Why an operation on decimals has no result. -/
inductive Fault where
  /-- A quotient or a remainder by zero. -/
  | divisionByZero
  /-- A power whose exponent is not an integer. -/
  | nonIntegerExponent
  /-- A power whose exponent is above the limit. -/
  | exponentTooLarge (limit : Quantity)
  /-- A power whose exponent is above a limit that has too many digits to be written. -/
  | limitTooLong
  /-- A result above the range. -/
  | overflow
  /-- A shift that no decimal can carry out. -/
  | invalid
  /-- A quotient of more digits than a decimal has. -/
  | quotientTooLong
  /-- A result of more digits than a decimal has. -/
  | tooManyDigits
  /-- A division in a rounding mode that does not exist. -/
  | unknownRounding
  deriving DecidableEq

/-- The undefined operations of arithmetic, as against those that a range forbids. -/
inductive Reason where
  | divisionByZero
  | nonIntegerExponent
  | exponentTooLarge
  deriving DecidableEq

namespace Reason

/-- The name under which a reason is reported. -/
def name : Reason → String
  | divisionByZero => "division_by_zero"
  | nonIntegerExponent => "non_integer_exponent"
  | exponentTooLarge => "exponent_too_large"

/-- The reason of a name. -/
def ofName? (name : String) : Option Reason :=
  [divisionByZero, nonIntegerExponent, exponentTooLarge].find? (·.name == name)

/-- The sentence for a reason that comes without one of its own. -/
def message : Reason → String
  | divisionByZero => "division by zero"
  | nonIntegerExponent => "exponent must be an integer"
  | exponentTooLarge => "exponent is too large"

end Reason

namespace Fault

/-- The undefined operation behind a fault, if it is one. -/
def reason? : Fault → Option Reason
  | divisionByZero => some .divisionByZero
  | nonIntegerExponent => some .nonIntegerExponent
  | exponentTooLarge _ => some .exponentTooLarge
  | _ => none

/-- The wording of a fault. -/
def message : Fault → String
  | divisionByZero => Reason.message .divisionByZero
  | nonIntegerExponent => Reason.message .nonIntegerExponent
  | exponentTooLarge limit =>
    Reason.message .exponentTooLarge ++ " (limit is " ++ limit.text ++ ")"
  | limitTooLong => Digits.tooLong
  | overflow => "[<class 'decimal.Overflow'>]"
  | invalid => "[<class 'decimal.InvalidOperation'>]"
  | quotientTooLong => "[<class 'decimal.DivisionImpossible'>]"
  | tooManyDigits => ""
  | unknownRounding =>
    "valid values for rounding are:\n  [ROUND_CEILING, ROUND_FLOOR, ROUND_UP, ROUND_DOWN,\n" ++
      "   ROUND_HALF_UP, ROUND_HALF_DOWN, ROUND_HALF_EVEN,\n   ROUND_05UP]"

end Fault

namespace Decimal

/-- The greatest adjusted exponent. -/
def highest : Int := 999999999999999999

/-- The greatest number of digits. -/
def precision : Nat := 999999999999999999

/-- The least exponent. -/
def lowest : Int := -1999999999999999997

/-- Zero, with exponent zero. -/
def zero : Decimal := ⟨false, 0, 0⟩

/-- One, with exponent zero. -/
def one : Decimal := ⟨false, 1, 0⟩

/-- Whether a decimal is zero, of either sign. -/
def isZero (x : Decimal) : Bool := x.coefficient == 0

/-- The number of digits of the coefficient. -/
def width (x : Decimal) : Nat := Digits.count x.coefficient

/-- The exponent of the leading digit. -/
def adjusted (x : Decimal) : Int := x.exponent + x.width - 1

/-- Whether a decimal is within the range as it is. -/
def inRange (x : Decimal) : Bool :=
  lowest ≤ x.exponent && x.width ≤ precision && x.adjusted ≤ highest

/-- The decimal without its digits below `10 ^ unit`, rounded there if it has some. -/
def rounded (mode : Rounding) (x : Decimal) (unit : Int) : Decimal :=
  if x.exponent < unit then
    ⟨x.negative, mode.dropDigits x.negative x.coefficient (unit - x.exponent).toNat, unit⟩
  else x

/-- Brings a result into the range. -/
def finish (negative : Bool) (coefficient : Nat) (exponent : Int) : Except Fault Decimal :=
  if coefficient = 0 then .ok ⟨negative, 0, max lowest (min highest exponent)⟩
  else if precision < Digits.count coefficient then .error .tooManyDigits
  else if highest < exponent + Digits.count coefficient - 1 then .error .overflow
  else if exponent < lowest then
    .ok ⟨negative, Rounding.halfUp.dropDigits negative coefficient (lowest - exponent).toNat,
      lowest⟩
  else .ok ⟨negative, coefficient, exponent⟩

end Decimal
end Reckoner
