/-
# Limits of nesting

What is nested is descended into, and a machine that runs a calculation goes down only so far. A run
descends in several places. Each of them starts at a depth of its own and spends its own number of
calls on a level, so each has a limit of its own, and nothing is presupposed about any of them.

| limit | of the levels |
| --- | --- |
| `reading` | of a text that is read |
| `evaluation` | of a tree that is evaluated |
| `steps` | that the operands of signs take where they are printed as steps |
| `termValues` | of a term that is evaluated alone |
| `termTexts` | that the texts of terms take |
| `outline` | of a tree that is outlined |
| `documents` | that the values in a configuration take where they are read |
| `values` | of a variable of a configuration that is turned into its text |
-/

namespace Reckoner

/-- How many levels are descended in each place of a run. -/
structure Limits where
  reading : Nat := 1000
  evaluation : Nat := 1000
  steps : Nat := 1000
  termValues : Nat := 1000
  termTexts : Nat := 1000
  outline : Nat := 1000
  documents : Nat := 1000
  values : Nat := 1000
  deriving DecidableEq

end Reckoner
