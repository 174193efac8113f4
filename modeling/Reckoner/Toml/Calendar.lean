/-
# Dates and times

A day is a date of the Gregorian calendar from the year one on. A time of day has microseconds. A
date with a time may know its offset from universal time, of less than a day.

Each is written in two ways: as text for people (`1979-05-27 07:32:00+01:00`), and as a value inside
other values, where it names its parts.
-/

import Reckoner.Digits

namespace Reckoner
namespace Toml

/-- A date. -/
structure Date where
  year : Nat
  month : Nat
  day : Nat
  deriving DecidableEq

/-- A time of day. -/
structure Time where
  hour : Nat
  minute : Nat
  second : Nat
  microsecond : Nat
  deriving DecidableEq

/-- A date, a time, or both; then perhaps with an offset in minutes. -/
inductive Moment where
  | date (date : Date)
  | time (time : Time)
  | both (date : Date) (time : Time) (offset : Option Int)
  deriving DecidableEq

namespace Date

/-- Whether a year has a leap day. -/
def isLeap (year : Nat) : Bool := year % 4 == 0 && (year % 100 != 0 || year % 400 == 0)

/-- The number of days of a month. -/
def daysIn (year month : Nat) : Nat :=
  if month = 2 then (if isLeap year then 29 else 28)
  else if month ∈ [4, 6, 9, 11] then 30
  else 31

/-- Whether there is such a day. -/
def isValid (d : Date) : Bool :=
  1 ≤ d.year && 1 ≤ d.month && d.month ≤ 12 && 1 ≤ d.day && d.day ≤ daysIn d.year d.month

end Date

/-- A number with zeros in front up to a width. -/
def padded (width n : Nat) : String :=
  let digits := Digits.toChars n
  String.ofList (List.replicate (width - digits.length) '0' ++ digits)

/-- The text of a date. -/
def Date.text (d : Date) : String :=
  padded 4 d.year ++ "-" ++ padded 2 d.month ++ "-" ++ padded 2 d.day

/-- The text of a time; microseconds are shown if there are any. -/
def Time.text (t : Time) : String :=
  padded 2 t.hour ++ ":" ++ padded 2 t.minute ++ ":" ++ padded 2 t.second ++
    (if t.microsecond = 0 then "" else "." ++ padded 6 t.microsecond)

/-- The text of an offset in minutes. -/
def offsetText (minutes : Int) : String :=
  (if minutes < 0 then "-" else "+") ++ padded 2 (minutes.natAbs / 60) ++ ":" ++
    padded 2 (minutes.natAbs % 60)

/-- The parts of a time that are named: seconds and microseconds only if one that follows is not
zero. -/
def Time.fields (t : Time) : List Nat :=
  [t.hour, t.minute] ++
    (if t.microsecond ≠ 0 then [t.second, t.microsecond]
      else if t.second ≠ 0 then [t.second]
      else [])

/-- An offset as a value: days and seconds, of which only the days may be negative. -/
def offsetValue (minutes : Int) : String :=
  if minutes = 0 then "datetime.timezone.utc"
  else
    let days := if minutes < 0 then "days=-1, " else ""
    let seconds := (if minutes < 0 then minutes + 1440 else minutes).toNat * 60
    "datetime.timezone(datetime.timedelta(" ++ days ++ "seconds=" ++ Digits.toText seconds ++ "))"

/-- Numbers with commas between them. -/
def listed (ns : List Nat) : String := ", ".intercalate (ns.map Digits.toText)

namespace Moment

/-- A moment as text for people. -/
def text : Moment → String
  | date d => d.text
  | time t => t.text
  | both d t offset => d.text ++ " " ++ t.text ++ (offset.map offsetText).getD ""

/-- A moment as a value inside other values. -/
def value : Moment → String
  | date d => "datetime.date(" ++ listed [d.year, d.month, d.day] ++ ")"
  | time t => "datetime.time(" ++ listed t.fields ++ ")"
  | both d t offset =>
    "datetime.datetime(" ++ listed ([d.year, d.month, d.day] ++ t.fields) ++
      ((offset.map fun m => ", tzinfo=" ++ offsetValue m).getD "") ++ ")"

end Moment
end Toml
end Reckoner
