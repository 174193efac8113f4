/-
# Blanks

A blank is a character of Unicode's White_Space property or one of the four separators `1C` to `1F`
of ASCII. Blanks stand between tokens, around names and values, and are trimmed from texts.
-/

import Reckoner.Text.Ranges

namespace Reckoner
namespace Text

/-- The blanks. -/
def blankRanges : Ranges := [
  (0x0009, 0x000D), (0x001C, 0x0020), (0x0085, 0x0085), (0x00A0, 0x00A0), (0x1680, 0x1680),
  (0x2000, 0x200A), (0x2028, 0x2029), (0x202F, 0x202F), (0x205F, 0x205F), (0x3000, 0x3000)]

/-- Whether `c` is a blank. -/
def isBlank (c : Char) : Bool := blankRanges.contains c

/-- A text without the characters at its end that satisfy `p`. -/
def dropEndWhile (p : Char → Bool) (cs : List Char) : List Char :=
  (cs.reverse.dropWhile p).reverse

/-- A text without the blanks at its ends. -/
def trim (cs : List Char) : List Char := dropEndWhile isBlank (cs.dropWhile isBlank)

/-- Whether a text is made of blanks. -/
def isBlankText (cs : List Char) : Bool := cs.all isBlank

end Text
end Reckoner
