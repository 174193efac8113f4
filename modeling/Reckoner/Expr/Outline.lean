/-
# Outlines of trees

An outline has a line for every node, each level indented by two blanks: what the node is, then its
number or its symbol in quotes, then its span. A missing node has no line. Here a spine is descended
into like everything else, so the height of a tree counts, and too high a tree has no outline.

    Binary '+' [0:5]
      Number 1 [0:1]
      Number 2 [4:5]
-/

import Reckoner.Decimal.Text
import Reckoner.Expr

namespace Reckoner
namespace Expr

/-- How many nodes lie on the longest way down a tree. -/
def height : Expr → Nat
  | missing | number .. => 1
  | group inner _ => inner.height + 1
  | unary _ operand _ => operand.height + 1
  | binary _ left right _ => max left.height right.height + 1

/-- The line of a node at a level. -/
def outlineLine (level : Nat) (what : String) (span : Span) : String :=
  String.ofList (List.replicate (2 * level) ' ') ++ what ++
    " [" ++ Digits.signedText span.start ++ ":" ++ Digits.signedText span.stop ++ "]\n"

/-- The lines of a tree at a level, in front of `rest`. -/
def outlineFrom (level : Nat) : Expr → List String → List String
  | missing, rest => rest
  | number value raw span, rest =>
    let text := if raw.isEmpty then value.scientific else raw
    outlineLine level ("Number " ++ text) span :: rest
  | group inner span, rest => outlineLine level "Group" span :: outlineFrom (level + 1) inner rest
  | unary symbol operand span, rest =>
    outlineLine level ("Unary " ++ Text.quoted symbol) span ::
      outlineFrom (level + 1) operand rest
  | binary symbol left right span, rest =>
    outlineLine level ("Binary " ++ Text.quoted symbol) span ::
      outlineFrom (level + 1) left (outlineFrom (level + 1) right rest)

/-- The outline of a tree of at most `levels` levels. -/
def outline? (e : Expr) (levels : Nat := nestingLimit) : Option String :=
  if levels < e.height then none else some (String.join (outlineFrom 0 e []))

end Expr
end Reckoner
