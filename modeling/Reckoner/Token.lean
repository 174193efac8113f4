/-
# Tokens

An expression is read as a list of tokens with their places. At each point of the text the longest
piece counts, of these kinds:

| piece | token |
| --- | --- |
| a blank | none |
| a digit or a point, then digits, separators `_` and `,`, and at most one point in all | a number |
| `**`, or one of `+ - * / % ^` | an operator |
| `(` and `)` | a parenthesis |

A number needs a digit, and its separators do not count; one that no decimal can hold is refused. A
second point starts the next token. After the last token comes one that marks the end.
-/

import Reckoner.Decimal.Text
import Reckoner.Report

namespace Reckoner

/-- What a token is. -/
inductive Token.Kind where
  | number (value : Decimal)
  | operator (symbol : String)
  | opening
  | closing
  | finish
  deriving DecidableEq

/-- A piece of a text, as it was written and where. -/
structure Token where
  kind : Token.Kind
  raw : String
  span : Span
  deriving DecidableEq

/-- Why a text has no tokens from some point on. -/
inductive ScanFault where
  /-- A literal without a digit, or outside the range. -/
  | invalidNumber
  /-- A character that starts no token. -/
  | unsupported (c : Char)
  deriving DecidableEq

/-- The wording of a fault. -/
def ScanFault.message : ScanFault → String
  | invalidNumber => "invalid number"
  | unsupported c => "unsupported character '" ++ c.toString ++ "'"

/-- A fault and its place. -/
structure ScanError where
  fault : ScanFault
  span : Span
  deriving DecidableEq

/-- The report of an error in `source`. -/
def ScanError.report (e : ScanError) (source : String) : Report :=
  ⟨.syntactic, e.fault.message, e.span, source⟩

namespace Token

/-! ### Literals -/

/-- Whether a literal can start with `c`. -/
def isLiteralStart (c : Char) : Bool := Decimal.isDigit c || c == '.'

/-- Whether `c` groups the digits of a literal. -/
def isSeparator (c : Char) : Bool := c == '_' || c == ','

/-- Whether a literal can go on with `c`, points aside. -/
def isLiteralPart (c : Char) : Bool := Decimal.isDigit c || isSeparator c

/-- A literal without its separators. -/
def dropSeparators (cs : List Char) : List Char := cs.filter (!isSeparator ·)

/-- The rest of a literal that has begun, and what follows it. -/
def splitLiteral (pointSeen : Bool) : List Char → List Char × List Char
  | [] => ([], [])
  | c :: cs =>
    if c == '.' && !pointSeen then
      let (literal, rest) := splitLiteral true cs
      (c :: literal, rest)
    else if isLiteralPart c then
      let (literal, rest) := splitLiteral pointSeen cs
      (c :: literal, rest)
    else ([], c :: cs)

/-- A literal and what is behind it make up the text. -/
theorem splitLiteral_append (pointSeen : Bool) (cs : List Char) :
    (splitLiteral pointSeen cs).1 ++ (splitLiteral pointSeen cs).2 = cs := by
  fun_induction splitLiteral pointSeen cs <;> simp_all

/-- What is behind a literal is no longer than the text. -/
theorem length_splitLiteral_le (pointSeen : Bool) (cs : List Char) :
    (splitLiteral pointSeen cs).2.length ≤ cs.length := by
  have h := congrArg List.length (splitLiteral_append pointSeen cs)
  simp only [List.length_append] at h
  omega

/-- The number that a literal writes; there is none without a digit, nor outside the range. -/
def literalValue? (literal : List Char) : Option Decimal :=
  let (whole, fraction) := (dropSeparators literal).span (· != '.')
  let fraction := fraction.drop 1
  let value : Decimal := ⟨false, Digits.ofChars (whole ++ fraction), -(fraction.length : Int)⟩
  if whole.isEmpty && fraction.isEmpty || !value.inRange then none else some value

/-! ### Scanning -/

/-- The token of one character. -/
def symbol? (c : Char) : Option Kind :=
  if c ∈ ['+', '-', '*', '/', '%', '^'] then some (.operator c.toString)
  else if c = '(' then some .opening
  else if c = ')' then some .closing
  else none

/-- The token `raw` that starts at `start`. -/
def place (kind : Kind) (raw : List Char) (start : Nat) : Token :=
  ⟨kind, String.ofList raw, ⟨start, start + raw.length⟩⟩

/-- Reads on from offset `start`; `done` holds the tokens before it, last one first. -/
def scanFrom (done : List Token) (start : Nat) : List Char → Except ScanError (List Token)
  | [] => .ok (place .finish [] start :: done).reverse
  | '*' :: '*' :: cs => scanFrom (place (.operator "**") ['*', '*'] start :: done) (start + 2) cs
  | c :: cs =>
    if Text.isBlank c then scanFrom done (start + 1) cs
    else if isLiteralStart c then
      let split := splitLiteral (c == '.') cs
      let literal := c :: split.1
      match literalValue? literal with
      | none => .error ⟨.invalidNumber, ⟨start, start + literal.length⟩⟩
      | some value =>
        scanFrom (place (.number value) literal start :: done) (start + literal.length) split.2
    else
      match symbol? c with
      | none => .error ⟨.unsupported c, ⟨start, start + 1⟩⟩
      | some kind => scanFrom (place kind [c] start :: done) (start + 1) cs
termination_by cs => cs.length
decreasing_by
  all_goals simp only [List.length_cons]
  all_goals first
    | omega
    | exact Nat.lt_succ_of_le (length_splitLiteral_le _ _)

/-- The tokens of a text. -/
def scan (source : String) : Except ScanError (List Token) := scanFrom [] 0 source.toList

end Token
end Reckoner
