/-
# Spans of a text
-/

namespace Reckoner

/-- The characters of a text from `start` up to `stop`, which is not included. -/
structure Span where
  start : Int
  stop : Int
  deriving DecidableEq

namespace Span

/-- The span of errors that have no place. -/
def none : Span := ⟨0, 0⟩

/-- The least span that holds both. -/
def cover (a b : Span) : Span := ⟨min a.start b.start, max a.stop b.stop⟩

end Span
end Reckoner
