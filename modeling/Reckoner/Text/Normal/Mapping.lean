/-
# Rows of the decomposition table
-/

namespace Reckoner
namespace Text

/-- What the characters from `first` to `last` decompose into, fully and in canonical order: the
code points of `target`, of which the last counts on from `first`. -/
structure Mapping where
  first : Nat
  last : Nat
  target : List Nat

/-- The decomposition of a code point of a row. -/
def Mapping.apply (m : Mapping) (code : Nat) : List Nat :=
  m.target.dropLast ++ (m.target.getLast?.map (· + (code - m.first))).toList

end Text
end Reckoner
