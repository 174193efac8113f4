/-
# Integers as text

An integer is a sign, if any, and digits of any script, with single underscores between them. Blanks
may stand around it, those of ASCII being the space and the five controls that move the carriage.
More than `Digits.maxText` digits are not read.
-/

import Reckoner.Text.Blank
import Reckoner.Text.Digit

namespace Reckoner
namespace Text

/-- Whether a blank may stand around an integer. -/
def isIntegerBlank (c : Char) : Bool :=
  c == ' ' || (9 ≤ c.toNat && c.toNat ≤ 13) || (127 ≤ c.toNat && isBlank c)

/-- The digits of a text in which single underscores may stand between them. -/
def groupedDigits? : List Char → Option (List Char)
  | [] => none
  | [c] => if (Digits.ofChar? c).isSome then some [c] else none
  | c :: '_' :: rest =>
    if (Digits.ofChar? c).isSome then (groupedDigits? rest).map (c :: ·) else none
  | c :: rest => if (Digits.ofChar? c).isSome then (groupedDigits? rest).map (c :: ·) else none

/-- The integer that a text writes. -/
def integer? (text : String) : Option Int := do
  let cs := dropEndWhile isIntegerBlank (text.toList.dropWhile isIntegerBlank)
  let (negative, cs) := match cs with
    | '-' :: cs => (true, cs)
    | '+' :: cs => (false, cs)
    | cs => (false, cs)
  let digits ← groupedDigits? (cs.map plainDigit)
  if Digits.maxText < digits.length then none
  else
    let n : Int := Digits.ofChars digits
    return if negative then -n else n

end Text
end Reckoner
