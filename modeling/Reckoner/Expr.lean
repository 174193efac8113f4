/-
# Expressions

The tree of an expression keeps what was written: the symbols of its operators, its parentheses, the
spelling of its numbers and the span of every node. A tree built by hand may lack a node
(`Expr.missing`) and hold any symbol; what is read from text never does.

The left edge of a tree is its *spine*. A chain `1 + 2 + 3 + …` is one long spine, and is walked
without descending into it; only operands off the spine are nested deeper (`Expr.nesting`).
-/

import Reckoner.Decimal.Basic
import Reckoner.Operator
import Reckoner.Span

namespace Reckoner

/-- The tree of an expression. -/
inductive Expr where
  | missing
  | number (value : Decimal) (raw : String) (span : Span)
  | group (inner : Expr) (span : Span)
  | unary (symbol : String) (operand : Expr) (span : Span)
  | binary (symbol : String) (left right : Expr) (span : Span)
  deriving DecidableEq

namespace Expr

/-- The span of a node; a missing node has none. -/
def span? : Expr → Option Span
  | missing => none
  | number _ _ span | group _ span | unary _ _ span | binary _ _ _ span => some span

/-- The span of a node that is there. -/
def span (e : Expr) : Span := e.span?.getD Span.none

/-- What a node is called in messages. -/
def sort : Expr → String
  | missing => "NoneType"
  | number .. => "Number"
  | group .. => "Group"
  | unary .. => "Unary"
  | binary .. => "Binary"

/-- How many nodes a tree has. -/
def size : Expr → Nat
  | missing | number .. => 1
  | group inner _ => inner.size + 1
  | unary _ operand _ => operand.size + 1
  | binary _ left right _ => left.size + right.size + 1

/-- How many levels a tree nests: a group, a prefix sign and the right operand of an operator each
open one more. -/
def nesting : Expr → Nat
  | missing | number .. => 1
  | group inner _ => inner.nesting + 1
  | unary _ operand _ => operand.nesting + 1
  | binary _ left right _ => max left.nesting (right.nesting + 1)

/-- Every tree has a level. -/
theorem nesting_pos (e : Expr) : 0 < e.nesting := by
  cases e with
  | binary _ left right _ => exact Nat.lt_of_lt_of_le (Nat.succ_pos _) (Nat.le_max_right _ _)
  | _ => exact Nat.succ_pos _

/-- The most levels that are read or evaluated, where nothing else is said. -/
def nestingLimit : Nat := 1000

/-- The most levels that are printed, where nothing else is said: enough for what is read and
evaluated, since each level of a tree takes two levels at most. -/
def printingLimit : Nat := 2 * nestingLimit

/-- The wording for a tree or a text with more levels. -/
def tooDeep : String := "expression is nested too deeply"

/-- One operator on a spine with its operands. -/
structure Rung where
  symbol : String
  left : Expr
  right : Expr
  span : Span
  deriving DecidableEq

/-- The node of a rung. -/
def Rung.node (r : Rung) : Expr := binary r.symbol r.left r.right r.span

end Expr
end Reckoner
