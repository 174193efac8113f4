/-
# Operators

One table says how operators group (`Operator.table`); reading and printing both go by it. Prefix
signs are not in it: they bind tighter than every operator.

| operators | strength | group to the |
| --- | ---: | --- |
| `^` `**` | 4 | right |
| `*` `/` `%` | 3 | left |
| `+` `-` | 2 | left |
-/

namespace Reckoner

/-- The side to which operators of one strength group. -/
inductive Side where
  | left
  | right
  deriving DecidableEq

/-- What an operator does with its two operands. -/
inductive Operation where
  | add
  | subtract
  | multiply
  | divide
  | modulo
  | power
  deriving DecidableEq

/-- How an operator groups and what it does. -/
structure Operator where
  strength : Nat
  side : Side
  operation : Operation
  deriving DecidableEq

namespace Operator

/-- The operators by their symbols. -/
def table : List (String × Operator) :=
  [("^", ⟨4, .right, .power⟩), ("**", ⟨4, .right, .power⟩), ("*", ⟨3, .left, .multiply⟩),
    ("/", ⟨3, .left, .divide⟩), ("%", ⟨3, .left, .modulo⟩), ("+", ⟨2, .left, .add⟩),
    ("-", ⟨2, .left, .subtract⟩)]

/-- The operator of a symbol. -/
def ofSymbol? (symbol : String) : Option Operator := table.lookup symbol

/-- The least strength of an operator in the right operand of this one. -/
def rightStrength (operator : Operator) : Nat :=
  match operator.side with
  | .left => operator.strength + 1
  | .right => operator.strength

/-- Whether a symbol joins the terms of a sum. -/
def isAdditive (symbol : String) : Bool := symbol == "+" || symbol == "-"

/-- Whether a symbol can stand in front of an operand. -/
def isSign (symbol : String) : Bool := symbol == "+" || symbol == "-"

end Operator
end Reckoner
