/-
# Syllables of Hangul

A syllable is a leading consonant, a vowel and perhaps a trailing consonant, and its code point is
computed from theirs: there are 19 leading consonants, 21 vowels and 27 trailing ones, and the
syllables stand in that order from `AC00` on.
-/

namespace Reckoner
namespace Text
namespace Hangul

/-- The first leading consonant. -/
def leadBase : Nat := 0x1100

/-- The first vowel. -/
def vowelBase : Nat := 0x1161

/-- The place before the first trailing consonant, which stands for none. -/
def trailBase : Nat := 0x11A7

/-- The first syllable. -/
def syllableBase : Nat := 0xAC00

/-- Whether `c` is a syllable. -/
def isSyllable (c : Char) : Bool := syllableBase ≤ c.toNat && c.toNat < syllableBase + 11172

/-- The letters of a syllable. -/
def parts (c : Char) : List Char :=
  let index := c.toNat - syllableBase
  let lead := Char.ofNat (leadBase + index / 588)
  let vowel := Char.ofNat (vowelBase + index % 588 / 28)
  let trail := index % 28
  if trail = 0 then [lead, vowel] else [lead, vowel, Char.ofNat (trailBase + trail)]

/-- Two letters, or a syllable without a trailing consonant and such a consonant, as a syllable. -/
def join? (a b : Char) : Option Char :=
  if leadBase ≤ a.toNat ∧ a.toNat < leadBase + 19 ∧ vowelBase ≤ b.toNat ∧
      b.toNat < vowelBase + 21 then
    some (Char.ofNat (syllableBase + (a.toNat - leadBase) * 588 + (b.toNat - vowelBase) * 28))
  else if isSyllable a ∧ (a.toNat - syllableBase) % 28 = 0 ∧ trailBase < b.toNat ∧
      b.toNat < trailBase + 28 then
    some (Char.ofNat (a.toNat + (b.toNat - trailBase)))
  else none

end Hangul
end Text
end Reckoner
