/-
# Decimals as text

Reading takes an optional sign, digits with at most one point, and an optional exponent after `e` or
`E`. Blanks around the text and underscores anywhere are passed over, and digits of every script
count. What is read is exact, so a text outside the range is refused and never rounded.

Three forms are written.

| form | `15E-1` | `1E+3` | `0E-7` |
| --- | --- | --- | --- |
| `plain`, all digits | `1.5` | `1000` | `0.0000000` |
| `scientific`, shorter for a positive exponent or a small number | `1.5` | `1E+3` | `0E-7` |
| `display`, at most twelve places and no trailing zeros | `1.5` | `1000` | `0` |
-/

import Reckoner.Decimal.Basic
import Reckoner.Text.Blank
import Reckoner.Text.Digit
import Reckoner.Text.Quoted

namespace Reckoner
namespace Decimal

/-! ### Reading -/

/-- Why a text is no decimal. -/
inductive ReadingError where
  /-- It is not the form of a number. -/
  | malformed
  /-- Its number cannot be held exactly. -/
  | outOfRange
  /-- It writes an infinity, or a value that is not a number. -/
  | notFinite (text : String)
  deriving DecidableEq

/-- The wording of a reading error. -/
def ReadingError.message : ReadingError → String
  | malformed => "[<class 'decimal.ConversionSyntax'>]"
  | outOfRange => Fault.message .invalid
  | notFinite text => "not a finite number: " ++ Text.quoted text

/-- Whether `c` is a digit of ASCII. -/
def isDigit (c : Char) : Bool := '0' ≤ c && c ≤ '9'

/-- A sign in front of a text, and the rest. -/
def readSign : List Char → Bool × List Char
  | '-' :: cs => (true, cs)
  | '+' :: cs => (false, cs)
  | cs => (false, cs)

/-- The exponent that the text after a coefficient writes. -/
def readExponent? : List Char → Option Int
  | [] => some 0
  | c :: cs =>
    let (negative, digits) := readSign cs
    if (c = 'e' ∨ c = 'E') ∧ digits ≠ [] ∧ digits.all isDigit then
      some (if negative then -(Digits.ofChars digits : Int) else Digits.ofChars digits)
    else none

/-- The digits before and after a point, and the rest. -/
def readCoefficient (cs : List Char) : List Char × List Char × List Char :=
  match cs.span isDigit with
  | (whole, '.' :: rest) => (whole, rest.span isDigit)
  | (whole, rest) => (whole, [], rest)

/-- The coefficient and the exponent that an unsigned text writes. -/
def readMagnitude? (cs : List Char) : Option (Nat × Int) :=
  let (whole, fraction, rest) := readCoefficient cs
  if whole = [] ∧ fraction = [] then none
  else (readExponent? rest).map fun e =>
    (Digits.ofChars (whole ++ fraction), e - fraction.length)

/-- Whether an unsigned text writes an infinity, or a value that is not a number. -/
def isNotFinite (cs : List Char) : Bool :=
  match cs.map Char.toLower with
  | ['i', 'n', 'f'] => true
  | ['i', 'n', 'f', 'i', 'n', 'i', 't', 'y'] => true
  | 'n' :: 'a' :: 'n' :: payload => payload.all isDigit
  | 's' :: 'n' :: 'a' :: 'n' :: payload => payload.all isDigit
  | _ => false

/-- The decimal that a text writes. -/
def ofText (text : String) : Except ReadingError Decimal :=
  let cs := ((Text.trim text.toList).filter (· != '_')).map Text.plainDigit
  let (negative, cs) := readSign cs
  match readMagnitude? cs with
  | some (coefficient, exponent) =>
    let x : Decimal := ⟨negative, coefficient, exponent⟩
    if x.inRange then .ok x else .error .outOfRange
  | none => .error (if isNotFinite cs then .notFinite text else .malformed)

/-! ### Writing -/

/-- The digits before and after the point, trailing zeros included. -/
def parts (x : Decimal) : List Char × List Char :=
  let digits := Digits.toChars x.coefficient
  if 0 ≤ x.exponent then
    (if x.isZero then digits else digits ++ List.replicate x.exponent.toNat '0', [])
  else
    let places := (-x.exponent).toNat
    let padded := List.replicate (places + 1 - digits.length) '0' ++ digits
    padded.splitAt (padded.length - places)

/-- Digits before and after a point behind a sign; there is no point without digits after it. -/
def assemble (negative : Bool) (whole fraction : List Char) : String :=
  let point := if fraction.isEmpty then [] else '.' :: fraction
  String.ofList ((if negative then ['-'] else []) ++ whole ++ point)

/-- All digits, without an exponent. -/
def plain (x : Decimal) : String :=
  let (whole, fraction) := x.parts
  assemble x.negative whole fraction

/-- The scientific form: plain for exponents up to zero of numbers from a millionth on, else with
one digit before the point and a signed exponent. -/
def scientific (x : Decimal) : String :=
  if x.exponent ≤ 0 ∧ -6 ≤ x.adjusted then x.plain
  else
    let (whole, fraction) := (Digits.toChars x.coefficient).splitAt 1
    let sign := if x.adjusted < 0 then "E" else "E+"
    assemble x.negative whole fraction ++ sign ++ Digits.signedText x.adjusted

/-- The decimal rounded half up to a multiple of `10 ^ unit`, if it is finer. -/
def roundedTo (x : Decimal) (unit : Int) : Decimal := rounded .halfUp x unit

/-- Plain digits without trailing zeros after the point, and without a sign for zero. -/
def trimmedText (x : Decimal) : String :=
  let (whole, fraction) := x.parts
  let fraction := Text.dropEndWhile (· == '0') fraction
  assemble (x.negative && !(whole == ['0'] && fraction.isEmpty)) whole fraction

/-- How many places are displayed. -/
def displayPlaces : Nat := 12

/-- The text that people are shown. -/
def display (x : Decimal) : String := (x.roundedTo (-displayPlaces)).trimmedText

/-- The exponent of the unit for a number of places that may be negative: units above `10 ^ 999999`
overflow, and there is none finer than `10 ^ -1000026`. -/
def unitOf (places : Int) : Except Fault Int :=
  if 2000054 < places.natAbs then .error .invalid
  else if places < -999999 then .error .overflow
  else .ok (max (-1000026) (-places))

/-- The text that people are shown, with another number of places. -/
def displayAt (x : Decimal) (places : Int) : Except Fault String := do
  if x.exponent < -places then
    let unit ← unitOf places
    return (x.roundedTo unit).trimmedText
  else return x.trimmedText

end Decimal
end Reckoner
