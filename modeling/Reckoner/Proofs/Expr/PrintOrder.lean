/-
# What printing fails with

A tree is printed along its spine, and the operators of the spine are compared with their neighbours
on the way up. Here it is said what comes of this by recursion on the tree (`Expr.textByRules`): the
left operand is printed and put in its place, then the right one, and an operand that is an
operator's node is put in its place by comparing the two operators.

| operand | is compared by looking up | and is put in parentheses if it is |
| --- | --- | --- |
| left | its operator, then the outer one | weaker |
| right | the outer operator, then its own | weaker, or as strong and not grouped to the right |

So the faults of a tree come up in a fixed order (`Expr.faults`): missing nodes, and operators that
the table does not know and that are compared. A tree has a text if it has no faults, and otherwise
its first fault is what printing fails with (`print_eq_textByRules`).
-/

import Reckoner.Proofs.Expr.Printing
import Reckoner.Proofs.Outcome

namespace Reckoner
namespace Expr

/-! ### The rules -/

/-- A left operand that has a text, put in its place. -/
def leftText (symbol : String) (operand : Expr) (text : String) : Except PrintError String :=
  match operand with
  | binary child .. => do
    let inner ← operatorOf child
    let outer ← operatorOf symbol
    return if inner.strength < outer.strength then "(" ++ text ++ ")" else text
  | _ => .ok text

/-- A right operand that has a text, put in its place. -/
def rightText (symbol : String) (operand : Expr) (text : String) : Except PrintError String :=
  match operand with
  | binary child .. => do
    let outer ← operatorOf symbol
    let inner ← operatorOf child
    return if inner.strength < outer.strength ∨
      inner.strength = outer.strength ∧ outer.side ≠ .right then "(" ++ text ++ ")" else text
  | _ => .ok text

/-- The text of a tree by recursion. -/
def textByRules : Expr → Except PrintError String
  | missing => .error .missingNode
  | number value _ _ => .ok value.display
  | group inner _ => do
    let text ← inner.textByRules
    return "(" ++ text ++ ")"
  | unary symbol operand _ => do
    let text ← operand.textByRules
    return match operand with
      | unary .. | binary .. => symbol ++ ("(" ++ text ++ ")")
      | _ => symbol ++ text
  | binary symbol left right _ => do
    let before ← leftText symbol left (← left.textByRules)
    let behind ← rightText symbol right (← right.textByRules)
    return before ++ " " ++ symbol ++ " " ++ behind

/-- What is too weak for a right operand: the weaker, and the as strong unless grouped there. -/
theorem lt_rightStrength_iff (operator : Operator) (n : ℕ) : n < operator.rightStrength ↔
    n < operator.strength ∨ n = operator.strength ∧ operator.side ≠ .right := by
  rw [Operator.rightStrength]
  cases operator.side with
  | left =>
    rw [and_iff_left (show Side.left ≠ .right from nofun)]
    exact Nat.lt_succ_iff_lt_or_eq
  | right => simp

/-- A left operand is wrapped or not, if that can be told. -/
theorem leftText_eq (symbol : String) (operand : Expr) (text : String) :
    leftText symbol operand text = (wrap · text) <$> wrapsLeft symbol operand := by
  cases operand with
  | binary child left right span =>
    simp only [leftText, wrapsLeft, map_bind, map_pure, wrap, inParentheses, decide_eq_true_eq]
  | _ => rfl

/-- A right operand is wrapped or not, if that can be told. -/
theorem rightText_eq (symbol : String) (operand : Expr) (text : String) :
    rightText symbol operand text = (wrap · text) <$> wrapsRight symbol operand := by
  cases operand with
  | binary child left right span =>
    simp only [rightText, wrapsRight, map_bind, map_pure, wrap, inParentheses, decide_eq_true_eq,
      lt_rightStrength_iff]
  | _ => rfl

/-- **The recursion by the rules is the one that the walk along the spine was shown to be.** -/
theorem textByRules_eq_plainPrint (e : Expr) : e.textByRules = e.plainPrint := by
  induction e with
  | missing | number => rfl
  | group inner span ih =>
    rw [textByRules, plainPrint, ih]
    rfl
  | unary symbol operand span ih =>
    rw [textByRules, plainPrint, ih]
    cases operand <;> rfl
  | binary symbol left right span ihl ihr =>
    simp only [textByRules, plainPrint, ihl, ihr, leftText_eq, rightText_eq, bind_map_left]

/-! ### The faults -/

/-- The operators that the table does not know. -/
def unknowns (symbols : List String) : List PrintError :=
  (symbols.filter fun symbol => (Operator.ofSymbol? symbol).isNone).map .unknownOperator

/-- The operators that are looked up for a left operand, in order. -/
def leftLookups (symbol : String) : Expr → List String
  | binary child .. => [child, symbol]
  | _ => []

/-- The operators that are looked up for a right operand, in order. -/
def rightLookups (symbol : String) : Expr → List String
  | binary child .. => [symbol, child]
  | _ => []

/-- All that keeps a tree from having a text, in the order in which it comes up. -/
def faults : Expr → List PrintError
  | missing => [.missingNode]
  | number .. => []
  | group inner _ => inner.faults
  | unary _ operand _ => operand.faults
  | binary symbol left right _ =>
    left.faults ++ (unknowns (leftLookups symbol left) ++
      (right.faults ++ unknowns (rightLookups symbol right)))

/-- That a step fails with the first of some faults, and has a result if there are none. -/
def Meets {α : Type} (faults : List PrintError) : Except PrintError α → Prop
  | .ok _ => faults = []
  | .error e => faults.head? = some e

namespace Meets

variable {α β : Type} {fs gs : List PrintError} {x : Except PrintError α}

/-- What succeeds meets no failure. -/
theorem ok (a : α) : Meets [] (.ok a : Except PrintError α) := rfl

/-- The faults of a step come before those of the next one. -/
theorem bind {f : α → Except PrintError β} (h : Meets fs x) (hf : ∀ a, Meets gs (f a)) :
    Meets (fs ++ gs) (x >>= f) := by
  cases x with
  | ok a =>
    rw [show fs = [] from h]
    exact hf a
  | error e =>
    change (fs ++ gs).head? = some e
    rw [List.head?_append, show fs.head? = some e from h]
    rfl

/-- A step that cannot fail adds no faults. -/
theorem map {f : α → Except PrintError β} (h : Meets fs x) (hf : ∀ a, ∃ b, f a = .ok b) :
    Meets fs (x >>= f) := by
  rw [← List.append_nil fs]
  refine h.bind fun a => ?_
  obtain ⟨b, hb⟩ := hf a
  rw [hb]
  exact ok b

/-- What meets failures succeeds exactly if there are none. -/
theorem exists_ok_iff (h : Meets fs x) : (∃ a, x = .ok a) ↔ fs = [] := by
  cases x with
  | ok a => exact iff_of_true ⟨a, rfl⟩ h
  | error e =>
    refine iff_of_false nofun fun hnil => ?_
    rw [hnil] at h
    cases h

/-- What meets failures fails with the first one. -/
theorem eq_error_iff (h : Meets fs x) {e : PrintError} : x = .error e ↔ fs.head? = some e := by
  cases x with
  | ok a =>
    rw [show fs = [] from h]
    exact iff_of_false nofun nofun
  | error e' =>
    rw [show fs.head? = some e' from h]
    exact ⟨fun heq => congrArg some (Except.error.inj heq),
      fun heq => congrArg _ (Option.some.inj heq)⟩

end Meets

/-- Looking up an operator fails exactly if it is unknown. -/
theorem meets_operatorOf (symbol : String) : Meets (unknowns [symbol]) (operatorOf symbol) := by
  rw [operatorOf, unknowns]
  cases h : Operator.ofSymbol? symbol with
  | none => simp [Meets, h]
  | some operator => simp [Meets, h]

/-- Two operators are looked up one behind the other. -/
theorem meets_compare {α : Type} (first second : String) (f : Operator → Operator → α) :
    Meets (unknowns [first, second]) (do
      let a ← operatorOf first
      let b ← operatorOf second
      return f a b) := by
  have happend : unknowns [first, second] = unknowns [first] ++ unknowns [second] := by
    rw [unknowns, unknowns, unknowns, ← List.map_append, ← List.filter_append]
    rfl
  rw [happend]
  exact (meets_operatorOf first).bind fun a => (meets_operatorOf second).map fun b => ⟨_, rfl⟩

/-- A left operand meets the unknown symbols among those that it looks up. -/
theorem meets_leftText (symbol : String) (operand : Expr) (text : String) :
    Meets (unknowns (leftLookups symbol operand)) (leftText symbol operand text) := by
  cases operand with
  | binary child left right span => exact meets_compare child symbol _
  | _ => exact Meets.ok text

/-- A right operand meets the unknown symbols among those that it looks up. -/
theorem meets_rightText (symbol : String) (operand : Expr) (text : String) :
    Meets (unknowns (rightLookups symbol operand)) (rightText symbol operand text) := by
  cases operand with
  | binary child left right span => exact meets_compare symbol child _
  | _ => exact Meets.ok text

/-- **A tree fails with its first fault.** -/
theorem meets_textByRules (e : Expr) : Meets e.faults e.textByRules := by
  induction e with
  | missing => exact rfl
  | number value raw span => exact Meets.ok _
  | group inner span ih => exact ih.map fun text => ⟨_, rfl⟩
  | unary symbol operand span ih => exact ih.map fun text => ⟨_, rfl⟩
  | binary symbol left right span ihl ihr =>
    refine ihl.bind fun before => (meets_leftText symbol left before).bind fun before => ?_
    refine ihr.bind fun behind => (meets_rightText symbol right behind).map fun behind => ?_
    exact ⟨_, rfl⟩

/-- **Printing is the recursion by the rules, errors included.** Of a tree with no more levels than
there are, it gives the text that the recursion gives, or the same error. It gives a text if the
tree has no faults, and otherwise fails with the first one. -/
theorem print_eq_textByRules {e : Expr} (h : e.nesting ≤ nestingLimit) :
    e.print = e.textByRules ∧ ((∃ text, e.print = .ok text) ↔ e.faults = []) ∧
      ∀ error, e.print = .error error ↔ e.faults.head? = some error := by
  rw [print_eq_plainPrint h, ← textByRules_eq_plainPrint]
  exact ⟨rfl, (meets_textByRules e).exists_ok_iff, fun error => (meets_textByRules e).eq_error_iff⟩

/-- Faults that compete: a left operand is compared before the right one is printed, and a right one
is printed before it is compared. A power on the left of a power stands as it is. -/
theorem print_eq_textByRules_competing :
    let one := number .one "1" ⟨0, 1⟩
    let comparedFirst := binary "^" (binary "&" one one ⟨0, 5⟩) missing ⟨0, 9⟩
    let printedFirst := binary "^" one (binary "&" one missing ⟨4, 9⟩) ⟨0, 9⟩
    let power := binary "^" (binary "^" one one ⟨0, 5⟩) one ⟨0, 9⟩
    let e := binary "-" power (binary "-" one one ⟨12, 17⟩) ⟨0, 17⟩
    (comparedFirst.nesting ≤ nestingLimit ∧ printedFirst.nesting ≤ nestingLimit ∧
        e.nesting ≤ nestingLimit) ∧
      comparedFirst.print = .error (.unknownOperator "&") ∧
      printedFirst.print = .error .missingNode ∧
        e.print = .ok "1 ^ 1 ^ 1 - (1 - 1)" := by
  intro one comparedFirst printedFirst power e
  have hlevels : comparedFirst.nesting ≤ nestingLimit ∧ printedFirst.nesting ≤ nestingLimit ∧
      e.nesting ≤ nestingLimit := by decide
  obtain ⟨-, -, hcompared⟩ := print_eq_textByRules hlevels.1
  obtain ⟨-, -, hprinted⟩ := print_eq_textByRules hlevels.2.1
  obtain ⟨htext, -⟩ := print_eq_textByRules hlevels.2.2
  exact ⟨hlevels, (hcompared _).2 rfl, (hprinted _).2 rfl, htext.trans (by decide +kernel)⟩

end Expr
end Reckoner
