/-
# Printing by recursion

A tree is printed along its spine so that a long chain needs no levels. That this is the plain
recursion on the tree (`plainPrint`) is seen by holding the operators above a node back: to print
the node and then them is what the walk does (`printChain_same`). Where the levels run out, printing
gives up, and this is all that it does differently (`printAt_same`).
-/

import Mathlib.Data.Nat.Init
import Reckoner.Expr.Printer
import Reckoner.Proofs.Outcome

namespace Reckoner
namespace Expr

/-- The text of a tree by recursion. -/
def plainPrint : Expr → Except PrintError String
  | missing => .error .missingNode
  | number value _ _ => .ok value.display
  | group inner _ => do
    let text ← inner.plainPrint
    return inParentheses text
  | unary symbol operand _ => do
    let text ← operand.plainPrint
    return symbol ++ wrap operand.needsParentheses text
  | binary symbol left right _ => do
    let below ← left.plainPrint
    let wrapLeft ← wrapsLeft symbol left
    let text ← right.plainPrint
    let wrapRight ← wrapsRight symbol right
    return wrap wrapLeft below ++ " " ++ symbol ++ " " ++ wrap wrapRight text

/-- The walk down a spine prints its foot and then the operators, lowest first, unless what prints
the operands gives up. -/
theorem printChain_same {p : PrintError → Prop} {inner : Expr → Except PrintError String}
    {depth : ℕ} (hinner : ∀ d : Expr, d.nesting ≤ depth → SameUnless p (inner d) d.plainPrint)
    {e : Expr} (h : e.nesting ≤ depth + 1) (rungs : List Rung) :
    SameUnless p (printChain inner rungs e) (e.plainPrint >>= rungs.foldlM (printRung inner)) := by
  induction e generalizing rungs with
  | missing | number => exact .refl p _
  | group e span _ =>
    rw [printChain, plainPrint, bind_assoc]
    exact (hinner e (Nat.le_of_succ_le_succ h)).bind fun text => .refl p _
  | unary symbol e span _ =>
    rw [printChain, plainPrint, bind_assoc]
    exact (hinner e (Nat.le_of_succ_le_succ h)).bind fun text => .refl p _
  | binary symbol left right span ihl _ =>
    obtain ⟨hleft, hright⟩ := Nat.max_le.1 h
    have hrung : ∀ below, SameUnless p (printRung inner below ⟨symbol, left, right, span⟩)
        (do
          let wrapLeft ← wrapsLeft symbol left
          let text ← right.plainPrint
          let wrapRight ← wrapsRight symbol right
          return wrap wrapLeft below ++ " " ++ symbol ++ " " ++ wrap wrapRight text) := fun below =>
      (SameUnless.refl p _).bind fun wrapLeft =>
        (hinner right (Nat.le_of_succ_le_succ hright)).bind fun text => .refl p _
    rw [printChain, plainPrint, bind_assoc]
    exact (ihl hleft _).trans ((SameUnless.refl p _).bind fun below =>
      (hrung below).bind fun text => .refl p _)

/-- **Printing is the recursion on the tree**, unless it takes more levels than there are, which is
so only in a tree of more than half as many levels. -/
theorem printAt_same (whole : Span) (levels : ℕ) (e : Expr) :
    SameUnless (fun error => error = .tooDeep whole ∧ levels < 2 * e.nesting)
      (printAt whole levels e) e.plainPrint := by
  have hpos := e.nesting_pos
  induction levels using Nat.twoStepInduction generalizing e with
  | zero => exact .error ⟨rfl, Nat.mul_pos (Nat.succ_pos 1) hpos⟩ _
  | one =>
    rw [printAt, ← bind_pure e.plainPrint]
    exact printChain_same (fun d _ => .error ⟨rfl, by omega⟩ _) (Nat.le_succ _) []
  | more levels ih ih' =>
    -- What is nested in the tree has fewer levels.
    have hdepth : e.nesting ≤ e.nesting - 1 + 1 := by omega
    rw [← bind_pure e.plainPrint]
    cases e with
    | binary =>
      refine printChain_same (fun d hd => (ih d d.nesting_pos).mono fun _ hdeep => ?_) hdepth []
      exact ⟨hdeep.1, by omega⟩
    | _ =>
      refine printChain_same (fun d hd => (ih' d d.nesting_pos).mono fun _ hdeep => ?_) hdepth []
      exact ⟨hdeep.1, by omega⟩

/-- Printing is the recursion on the tree, as far as the levels last. -/
theorem print_eq_of_le {e : Expr} {levels : ℕ} (h : 2 * e.nesting ≤ levels) :
    e.print levels = e.plainPrint :=
  (printAt_same e.span levels e).eq fun _ hdeep => absurd hdeep.2 (Nat.not_lt.2 h)

/-- Within the limit of nesting, printing is printing by plain recursion. -/
theorem print_eq_plainPrint {e : Expr} (h : e.nesting ≤ nestingLimit) : e.print = e.plainPrint :=
  print_eq_of_le (Nat.mul_le_mul_left 2 h)

/-- **Printing with any number of levels** is the recursion on the tree, unless it gives up. -/
theorem print_same (e : Expr) (levels : ℕ) :
    SameUnless (· = .tooDeep e.span) (e.print levels) e.plainPrint :=
  (printAt_same e.span levels e).mono fun _ => And.left

end Expr
end Reckoner
