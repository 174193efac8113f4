/-
# Compatibility decompositions

Every character has a decomposition: for most it is the character itself, for syllables of Hangul it
is computed, and for the rest it is looked up. The table is cut into blocks, each with the greatest
code point in it.
-/

import Reckoner.Text.Normal.Forms
import Reckoner.Text.Normal.Hangul
import Reckoner.Text.Normal.Ideographs
import Reckoner.Text.Normal.Letters

namespace Reckoner
namespace Text

open Decompositions in
/-- The blocks of the table in ascending order. -/
def decompositionBlocks : List (Nat × List Mapping) := [
  (0x0200, from00A0), (0x1B06, from0201), (0x1EA5, from1B08), (0x1FA9, from1EA6),
  (0x2247, from1FAA), (0x2F75, from2249), (0x3216, from2F76), (0x332A, from3217),
  (0xF90D, from332B), (0xF9FD, fromF90E), (0xFB38, fromF9FE), (0xFC4F, fromFB39),
  (0xFD51, fromFC50), (0xFEBB, fromFD52), (0x1D6A3, fromFEBC), (0x1F16A, from1D6A4),
  (0x2F8B3, from1F16B), (0x2F9A5, from2F8B4), (0x2FA1D, from2F9A6)]

/-- The code points that a code point decomposes into by the table. The rows ascend, so the first
that does not end before the code point decides. -/
def mappingOf? (code : Nat) : Option (List Nat) := do
  let (_, block) ← decompositionBlocks.find? fun b => code ≤ b.1
  let mapping ← block.find? fun m => code ≤ m.last
  if mapping.first ≤ code then some (mapping.apply code) else none

/-- The full compatibility decomposition of a character. -/
def decomposition (c : Char) : List Char :=
  if Hangul.isSyllable c then Hangul.parts c
  else ((mappingOf? c.toNat).map (·.map Char.ofNat)).getD [c]

end Text
end Reckoner
