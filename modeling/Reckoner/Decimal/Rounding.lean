/-
# Rounding to a whole number of units

A quantity is cut into the units that are kept and a tail that is dropped. Of the tail only its size
against half a unit matters (`Tail`), and a mode is the decision, from the sign, the kept units and
the tail, whether to go one unit further from zero (`Rounding.away`). Rounding happens once, on the
exact quotient (`Rounding.quotient`).

| mode | goes away from zero |
| --- | --- |
| `up` | whenever something is dropped |
| `down` | never |
| `ceiling`, `floor` | whenever something is dropped from a positive, a negative quantity |
| `halfUp` | from half a unit on |
| `halfDown` | above half a unit |
| `halfEven` | above half a unit, and at half a unit if the kept units are odd |
| `zeroFiveUp` | if something is dropped and the last kept digit is 0 or 5 |
-/

import Reckoner.Digits

namespace Reckoner

/-- What is dropped, against half a unit. -/
inductive Tail where
  | nothing
  | underHalf
  | half
  | overHalf
  deriving DecidableEq

/-- The tail of a remainder `r` by `d`. -/
def Tail.ofRemainder (r d : Nat) : Tail :=
  if r = 0 then .nothing
  else if 2 * r < d then .underHalf
  else if 2 * r = d then .half
  else .overHalf

/-- The eight ways to decide. -/
inductive Rounding where
  | up
  | down
  | ceiling
  | floor
  | halfUp
  | halfDown
  | halfEven
  | zeroFiveUp
  deriving DecidableEq

namespace Rounding

/-- The names that settings give the modes. -/
def named : List (String × Rounding) :=
  [("ROUND_CEILING", ceiling), ("ROUND_FLOOR", floor), ("ROUND_UP", up), ("ROUND_DOWN", down),
    ("ROUND_HALF_UP", halfUp), ("ROUND_HALF_DOWN", halfDown), ("ROUND_HALF_EVEN", halfEven),
    ("ROUND_05UP", zeroFiveUp)]

/-- The mode of a name. -/
def ofName? (name : String) : Option Rounding := named.lookup name

/-- Whether `kept` units with this tail go one unit further from zero. -/
def away (mode : Rounding) (negative : Bool) (kept : Nat) (tail : Tail) : Bool :=
  match mode with
  | up => tail != .nothing
  | down => false
  | ceiling => tail != .nothing && !negative
  | floor => tail != .nothing && negative
  | halfUp => tail == .half || tail == .overHalf
  | halfDown => tail == .overHalf
  | halfEven => tail == .overHalf || (tail == .half && kept % 2 == 1)
  | zeroFiveUp => tail != .nothing && kept % 5 == 0

/-- The units after rounding. -/
def settle (mode : Rounding) (negative : Bool) (kept : Nat) (tail : Tail) : Nat :=
  if mode.away negative kept tail then kept + 1 else kept

/-- `numerator / denominator`, rounded to a whole number. -/
def quotient (mode : Rounding) (negative : Bool) (numerator denominator : Nat) : Nat :=
  mode.settle negative (numerator / denominator)
    (Tail.ofRemainder (numerator % denominator) denominator)

/-- `n / 10 ^ k`, rounded. A number with fewer than `k` digits is below a tenth of a unit, so its
tail is known without the power. -/
def dropDigits (mode : Rounding) (negative : Bool) (n k : Nat) : Nat :=
  if Digits.count n < k then mode.settle negative 0 (if n = 0 then .nothing else .underHalf)
  else mode.quotient negative n (Digits.tenTo k)

end Rounding
end Reckoner
