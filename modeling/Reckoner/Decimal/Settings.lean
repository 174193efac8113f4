/-
# What a calculation may choose

Division keeps a number of places and rounds in a mode; powers have a greatest exponent. Both counts
are natural numbers: `Settings.of?` refuses negative ones, the places first.
-/

import Reckoner.Decimal.Basic

namespace Reckoner

/-- The settings of inexact and costly operations. -/
structure Settings where
  /-- How many fractional digits division keeps. -/
  places : Quantity := .number 40
  /-- How division rounds; `none` for a mode that does not exist, which only a division notices. -/
  rounding : Option Rounding := some .halfUp
  /-- The greatest magnitude of an exponent. -/
  maxExponent : Quantity := .number 100000
  deriving DecidableEq

/-- A negative count in settings. -/
inductive Settings.Refusal where
  | places (given : Int)
  | maxExponent (given : Int)
  deriving DecidableEq

/-- The wording of a refusal. -/
def Settings.Refusal.message : Settings.Refusal → String
  | places n => "places must be non-negative, got " ++ Digits.signedText n
  | maxExponent n => "max_exponent must be non-negative, got " ++ Digits.signedText n

/-- A count before it is checked: an integer or a truth value. -/
inductive Count where
  | integer (n : Int)
  | truth (b : Bool)
  deriving DecidableEq

/-- The quantity of a count, unless it is negative. -/
def Count.quantity? : Count → Except Int Quantity
  | integer n => if n < 0 then .error n else .ok (.number n.toNat)
  | truth b => .ok (.truth b)

/-- Settings from counts that may be out of range. -/
def Settings.of? (places : Count) (rounding : Option Rounding) (maxExponent : Count) :
    Except Settings.Refusal Settings := do
  let places ← places.quantity?.mapError .places
  let maxExponent ← maxExponent.quantity?.mapError .maxExponent
  return ⟨places, rounding, maxExponent⟩

end Reckoner
