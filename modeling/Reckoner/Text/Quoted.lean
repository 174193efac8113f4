/-
# Texts in quotes

A quoted text stands between apostrophes, or between quotation marks if it holds an apostrophe and
no quotation mark. Inside, a backslash and the quote itself follow a backslash, three control
characters have letters, and all other characters that are not printable are written by their code
point: two hexadecimal digits after `\x`, four after `\u`, eight after `\U`.
-/

import Reckoner.Text.Printable

namespace Reckoner
namespace Text

/-- The hexadecimal digit of a number below sixteen. -/
def hexDigit (n : Nat) : Char := if n < 10 then Char.ofNat (48 + n) else Char.ofNat (87 + n)

/-- The last `width` hexadecimal digits of `n`. -/
def hexDigits (n : Nat) : Nat → List Char
  | 0 => []
  | width + 1 => hexDigit (n / Nat.pow 16 width % 16) :: hexDigits n width

/-- The quote for a text. -/
def quoteFor (cs : List Char) : Char := if '\'' ∈ cs ∧ '"' ∉ cs then '"' else '\''

/-- A character inside a pair of quotes `q`. -/
def escape (q c : Char) : List Char :=
  if c = q ∨ c = '\\' then ['\\', c]
  else if c = '\n' then ['\\', 'n']
  else if c = '\r' then ['\\', 'r']
  else if c = '\t' then ['\\', 't']
  else if isPrintable c then [c]
  else if c.toNat < 0x100 then '\\' :: 'x' :: hexDigits c.toNat 2
  else if c.toNat < 0x10000 then '\\' :: 'u' :: hexDigits c.toNat 4
  else '\\' :: 'U' :: hexDigits c.toNat 8

/-- A text in quotes. -/
def quoted (text : String) : String :=
  let cs := text.toList
  let q := quoteFor cs
  String.ofList (q :: cs.flatMap (escape q) ++ [q])

end Text
end Reckoner
