/-
# The compatibility normal form

Texts that look alike may be written differently. The normal form NFKC of Unicode picks one spelling
in three passes: every character is decomposed (`decompose`), marks are put in the order of their
classes (`reorder`), and what can be one character is composed (`compose`).
-/

import Reckoner.Text.Normal.CombiningClass
import Reckoner.Text.Normal.Composition
import Reckoner.Text.Normal.Decomposition

namespace Reckoner
namespace Text

/-- All characters decomposed. -/
def decompose (cs : List Char) : List Char := cs.flatMap decomposition

/-- Puts a mark of class `k` in front of the marks, last first, that it does not have to follow. -/
def insertMark (k : Nat) (c : Char) : List Char → List Char
  | [] => [c]
  | d :: ds => if k < combiningClass d then d :: insertMark k c ds else c :: d :: ds

/-- Adds a character to a text in order, last character first. -/
def pushOrdered (done : List Char) (c : Char) : List Char :=
  let k := combiningClass c
  if k = 0 then c :: done else insertMark k c done

/-- The marks between letters in the order of their classes. -/
def reorder (cs : List Char) : List Char := (cs.foldl pushOrdered []).reverse

/-- Composition under way: the finished text, last character first, the letter that marks may still
join, and the marks that have not joined it, last one first. -/
structure Composing where
  done : List Char
  letter : Option Char
  marks : List Char

namespace Composing

/-- Nothing composed yet. -/
def start : Composing := ⟨[], none, []⟩

/-- All characters so far, last one first. -/
def flush (s : Composing) : List Char := s.marks ++ (s.letter.toList ++ s.done)

/-- What the next character makes of the letter, unless a mark in between keeps them apart. -/
def joined? (s : Composing) (c : Char) : Option Char := do
  let letter ← s.letter
  match s.marks with
  | [] => composite? letter c
  | mark :: _ => if combiningClass mark < combiningClass c then composite? letter c else none

/-- Takes the next character. -/
def next (s : Composing) (c : Char) : Composing :=
  match s.joined? c with
  | some whole => { s with letter := some whole }
  | none =>
    if combiningClass c = 0 then ⟨s.flush, some c, []⟩ else { s with marks := c :: s.marks }

end Composing

/-- A text with letters and their marks composed. -/
def compose (cs : List Char) : List Char := (cs.foldl Composing.next .start).flush.reverse

/-- The normal form of a text. -/
def normalForm (cs : List Char) : List Char := compose (reorder (decompose cs))

end Text
end Reckoner
