/-
# Reading expressions

Tokens are read by strength. An operand is a number, a parenthesis or a signed operand; then every
operator that is strong enough takes the tree so far as its left operand, and reads its right one
with the least strength that its side allows (`Operator.rightStrength`).

Each function returns the tokens that it left over, with the proof that they are fewer. Past the end
the last token stands for what is to come, which matters only to lists that do not end in an end
token; reading on there fails with `outOfTokens`.

| error | place |
| --- | --- |
| `expectedOperand` | the token that starts no operand |
| `missingClosing` | the parenthesis that is not closed |
| `trailing` | the first token after a whole expression |
| `tooDeep` | the whole text |
-/

import Reckoner.Expr
import Reckoner.Token

namespace Reckoner

/-- Why tokens are no expression. -/
inductive ParseError where
  | expectedOperand (span : Span)
  | missingClosing (span : Span)
  | trailing (span : Span)
  | tooDeep (span : Span)
  /-- A list without an end token was read past its end. -/
  | outOfTokens
  deriving DecidableEq

/-- The report of an error in `source`; reading past the end has no place. -/
def ParseError.report? (source : String) : ParseError → Option Report
  | expectedOperand span => some ⟨.syntactic, "expected an operand", span, source⟩
  | missingClosing span => some ⟨.syntactic, "missing closing parenthesis", span, source⟩
  | trailing span => some ⟨.syntactic, "trailing tokens", span, source⟩
  | tooDeep span => some ⟨.syntactic, Expr.tooDeep, span, source⟩
  | outOfTokens => none

namespace Expr

/-- The token that is read next. -/
def peek (last : Token) (tokens : List Token) : Token := tokens.head?.getD last

/-- The operator that a token is, if its strength is at least `least`. -/
def operatorAt? (least : Nat) (token : Token) : Option (String × Operator) :=
  match token.kind with
  | .operator symbol =>
    (Operator.ofSymbol? symbol).bind fun operator =>
      if operator.strength < least then none else some (symbol, operator)
  | _ => none

/-- A tree, and fewer tokens than there were. -/
abbrev Fewer (tokens : List Token) := { r : Expr × List Token // r.2.length < tokens.length }

/-- A tree, and no more tokens than there were. -/
abbrev NoMore (tokens : List Token) := { r : Expr × List Token // r.2.length ≤ tokens.length }

/-- The error past the end of the whole text. -/
def depthError (last : Token) : ParseError := .tooDeep ⟨0, last.span.stop⟩

mutual

/-- Reads one operand, of at most `depth` levels. -/
def readOperand (last : Token) (depth : Nat) (tokens : List Token) :
    Except ParseError (Fewer tokens) :=
  match depth, tokens with
  | 0, _ => .error (depthError last)
  | _ + 1, [] =>
    match last.kind with
    | .number _ | .opening => .error .outOfTokens
    | .operator symbol =>
      .error (if Operator.isSign symbol then .outOfTokens else .expectedOperand last.span)
    | .closing | .finish => .error (.expectedOperand last.span)
  | depth + 1, token :: rest =>
    match token.kind with
    | .number value => .ok ⟨(number value token.raw token.span, rest), Nat.lt_succ_self _⟩
    | .operator symbol =>
      if Operator.isSign symbol then do
        let ⟨(operand, after), h⟩ ← readOperand last depth rest
        return ⟨(unary symbol operand (token.span.cover operand.span), after),
          Nat.lt_succ_of_lt h⟩
      else .error (.expectedOperand token.span)
    | .opening => do
      let ⟨(inner, after), h⟩ ← readFrom last depth 0 rest
      match after, h with
      | [], _ =>
        .error (if last.kind = .closing then .outOfTokens else .missingClosing token.span)
      | close :: after, h =>
        if close.kind = .closing then
          return ⟨(group inner (token.span.cover close.span), after),
            Nat.lt_succ_of_lt (Nat.lt_of_succ_lt h)⟩
        else .error (.missingClosing token.span)
    | .closing | .finish => .error (.expectedOperand token.span)
termination_by 2 * tokens.length

/-- Reads the operators of strength `least` or more that follow `left`. -/
def readOperators (last : Token) (depth least : Nat) (left : Expr) (tokens : List Token) :
    Except ParseError (NoMore tokens) :=
  match operatorAt? least (peek last tokens), tokens with
  | none, tokens => .ok ⟨(left, tokens), Nat.le_refl _⟩
  | some _, [] => .error .outOfTokens
  | some (symbol, operator), _ :: rest => do
    let ⟨(right, after), h⟩ ← readFrom last (depth - 1) operator.rightStrength rest
    have : after.length < rest.length := h
    let node := binary symbol left right (left.span.cover right.span)
    let ⟨(e, after'), h'⟩ ← readOperators last depth least node after
    return ⟨(e, after'), Nat.le_trans h' (Nat.le_succ_of_le (Nat.le_of_lt h))⟩
termination_by 2 * tokens.length

/-- Reads an expression whose outer operators have strength `least` or more. -/
def readFrom (last : Token) (depth least : Nat) (tokens : List Token) :
    Except ParseError (Fewer tokens) := do
  let ⟨(left, after), h⟩ ← readOperand last depth tokens
  have : after.length < tokens.length := h
  let ⟨(e, after'), h'⟩ ← readOperators last depth least left after
  return ⟨(e, after'), Nat.lt_of_le_of_lt h' h⟩
termination_by 2 * tokens.length + 1

end

/-- The tree of a list of tokens, which should end in an end token. At most `levels` levels are
read. -/
def ofTokens (tokens : List Token) (levels : Nat := nestingLimit) : Except ParseError Expr :=
  match tokens.getLast? with
  | none => .error .outOfTokens
  | some last => do
    let ⟨(e, after), _⟩ ← readFrom last levels 0 tokens
    if (peek last after).kind = .finish then return e
    else .error (.trailing (peek last after).span)

/-- Why a text is no expression. -/
inductive TextError where
  | scan (e : ScanError)
  | parse (e : ParseError)
  deriving DecidableEq

/-- The tree of a text, of which at most `levels` levels are read. -/
def ofText (source : String) (levels : Nat := nestingLimit) : Except TextError Expr := do
  let tokens ← (Token.scan source).mapError .scan
  (ofTokens tokens levels).mapError .parse

end Expr
end Reckoner
