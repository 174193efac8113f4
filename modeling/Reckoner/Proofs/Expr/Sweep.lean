/-
# Syntax errors in one pass

Whether tokens are an expression, and if not, what is wrong with them, can be told without a tree,
in one pass from left to right (`Sweep`). The pass keeps the parentheses that are open and whether
an operand must come next.

| token | where an operand is next | where an operator is next |
| --- | --- | --- |
| number | operator next | fails |
| `(` | opens | fails |
| sign | operand next | operand next |
| other operator | fails | operand next |
| `)` | fails | closes, or fails if none is open |
| end | fails | accepts, or fails if one is open |

The parser reads by strength, in frames that call each other, and finds a fault in whichever frame
it comes up; strengths do not matter to it. Each function of the parser goes the way of the pass
(`follows`): it leaves off where the pass has its operand, or fails where the pass does. So both
find the same fault, unless the levels run out first (`ofTokens_sweep`).
-/

import Reckoner.Proofs.Expr.Grammar

namespace Reckoner

/-- Whether a kind is not that of an unknown operator. -/
def Token.Kind.isKnown : Token.Kind → Bool
  | operator symbol => (Operator.ofSymbol? symbol).isSome
  | _ => true

/-- What is known of the tokens so far: where the open parentheses are, the innermost first, and
whether an operand must come next. -/
structure Sweep where
  opened : List Span
  expecting : Bool

namespace Sweep

/-- What is known behind a token; nothing if the token cannot stand there. -/
def step (s : Sweep) (token : Token) : Option Sweep :=
  match s.expecting, token.kind, s.opened with
  | true, .number _, opened => some ⟨opened, false⟩
  | true, .opening, opened => some ⟨token.span :: opened, true⟩
  | true, .operator symbol, opened => if Operator.isSign symbol then some ⟨opened, true⟩ else none
  | true, _, _ => none
  | false, .operator _, opened => some ⟨opened, true⟩
  | false, .closing, _ :: opened => some ⟨opened, false⟩
  | false, .finish, [] => some ⟨[], false⟩
  | false, _, _ => none

/-- The first token that cannot stand where it does, and what is known before it. -/
def firstFault (s : Sweep) : List Token → Option (Sweep × Token)
  | [] => none
  | token :: rest =>
    match s.step token with
    | some next => next.firstFault rest
    | none => some (s, token)

/-- The message about a token that cannot stand where it does, and the place that it is about. -/
def complaint (s : Sweep) (token : Token) : String × Span :=
  if s.expecting then ("expected an operand", token.span)
  else match s.opened with
    | opening :: _ => ("missing closing parenthesis", opening)
    | [] => ("trailing tokens", token.span)

/-- The error with that message. -/
def error (s : Sweep) (token : Token) : ParseError :=
  if s.expecting then .expectedOperand token.span
  else match s.opened with
    | opening :: _ => .missingClosing opening
    | [] => .trailing token.span

/-- The report of a fault has the complaint and the place of the pass. -/
theorem report?_error (s : Sweep) (token : Token) (source : String) :
    (s.error token).report? source =
      some ⟨.syntactic, (s.complaint token).1, (s.complaint token).2, source⟩ := by
  rw [error, complaint]
  cases s.expecting
  · cases s.opened <;> rfl
  · rfl

/-- The pass does not run out of levels. -/
theorem error_ne_tooDeep (s : Sweep) (token : Token) (span : Span) :
    s.error token ≠ .tooDeep span := by
  rw [error]
  cases s.expecting
  · cases s.opened <;> exact nofun
  · exact nofun

/-- The error of the first token that cannot stand where it does. -/
def verdict (s : Sweep) (tokens : List Token) : Option ParseError :=
  (s.firstFault tokens).map fun fault => fault.1.error fault.2

/-- Behind a token that is allowed, the verdict is that on the rest. -/
theorem verdict_of_step {s next : Sweep} {token : Token} (h : s.step token = some next)
    (rest : List Token) : s.verdict (token :: rest) = next.verdict rest := by
  rw [verdict, firstFault, h]
  rfl

/-- A token that is not allowed is the verdict. -/
theorem verdict_of_fault {s : Sweep} {token : Token} (h : s.step token = none) (rest : List Token) :
    s.verdict (token :: rest) = some (s.error token) := by
  rw [verdict, firstFault, h]
  rfl

/-! ### One token -/

variable {token : Token} (opened : List Span)

/-- What begins no operand is not allowed where one must come next. -/
theorem step_refused (h : token.kind.beginsOperand = false) :
    step ⟨opened, true⟩ token = none := by
  rw [step]
  cases hkind : token.kind with
  | operator symbol =>
    rw [hkind] at h
    simp only [show Operator.isSign symbol = false from h]
    rfl
  | closing | finish => rfl
  | number | opening =>
    rw [hkind] at h
    cases h

/-- A number is an operand. -/
theorem step_number {value : Decimal} (h : token.kind = .number value) :
    step ⟨opened, true⟩ token = some ⟨opened, false⟩ := by rw [step, h]

/-- A parenthesis is opened where an operand must come next. -/
theorem step_opening (h : token.kind = .opening) :
    step ⟨opened, true⟩ token = some ⟨token.span :: opened, true⟩ := by rw [step, h]

/-- A sign is allowed where an operand must come next, which still must. -/
theorem step_sign {symbol : String} (h : token.kind = .operator symbol)
    (hsign : Operator.isSign symbol) : step ⟨opened, true⟩ token = some ⟨opened, true⟩ := by
  rw [step, h]
  exact if_pos hsign

/-- An operator is allowed behind an operand, and another one must come next. -/
theorem step_operator {symbol : String} (h : token.kind = .operator symbol) :
    step ⟨opened, false⟩ token = some ⟨opened, true⟩ := by rw [step, h]

/-- A parenthesis is closed behind an operand, if one is open. -/
theorem step_closing (h : token.kind = .closing) (opening : Span) :
    step ⟨opening :: opened, false⟩ token = some ⟨opened, false⟩ := by rw [step, h]

/-- The text ends behind an operand, if no parenthesis is open. -/
theorem step_finish (h : token.kind = .finish) : step ⟨[], false⟩ token = some ⟨[], false⟩ := by
  rw [step, h]

/-- Behind an operand there are operators, and what closes the innermost parenthesis. -/
theorem step_behind_eq_none (hoperator : ∀ symbol, token.kind ≠ .operator symbol)
    (hclosing : token.kind = .closing → opened = [])
    (hfinish : token.kind = .finish → opened ≠ []) :
    step ⟨opened, false⟩ token = none := by
  rw [step]
  cases hkind : token.kind with
  | number | opening => rfl
  | operator symbol => exact absurd hkind (hoperator symbol)
  | closing => rw [hclosing hkind]
  | finish =>
    obtain ⟨opening, rest, rfl⟩ := List.exists_cons_of_ne_nil (hfinish hkind)
    rfl

end Sweep

namespace Expr

/-! ### The parser and the pass -/

/-- The rest of a list that ends in its only end token and whose operators are known. -/
inductive Complete (last : Token) : List Token → Prop
  | finish : last.kind = .finish → Complete last [last]
  | cons {token : Token} {rest : List Token} : token.kind ≠ .finish → token.kind.isKnown →
      Complete last rest → Complete last (token :: rest)

/-- Whether a level of nesting can open at a token. -/
def opensLevel (token : Token) : Bool :=
  match token.kind with
  | .opening | .operator _ => true
  | _ => false

/-- How many levels tokens can open. -/
def levels (tokens : List Token) : ℕ := tokens.countP opensLevel

/-- A token that opens a level adds one. -/
theorem levels_cons {token : Token} (h : opensLevel token) (rest : List Token) :
    levels (token :: rest) = levels rest + 1 := List.countP_cons_of_pos h

/-- A token takes no level away. -/
theorem levels_le_cons (token : Token) (rest : List Token) : levels rest ≤ levels (token :: rest) :=
  (List.sublist_cons_self token rest).countP_le

/-- An outcome of reading tokens and the verdict of a pass over them agree: the tokens that are left
have the same verdict behind an operand, or the error is the verdict. Otherwise the tokens have
opened too many levels. -/
def Agrees (last : Token) (depth : ℕ) (tokens : List Token) (opened : List Span)
    (verdict : Option ParseError) : Except ParseError (Expr × List Token) → Prop
  | .ok (_, after) => Complete last after ∧ levels after ≤ levels tokens ∧
      verdict = Sweep.verdict ⟨opened, false⟩ after
  | .error e => e = depthError last ∧ depth ≤ levels tokens ∨ verdict = some e

section Agrees

variable {last : Token} {depth : ℕ} {tokens : List Token} {opened : List Span}
  {verdict : Option ParseError} {x : Except ParseError (Expr × List Token)}

/-- Agreement goes on where what is next agrees behind an operand. -/
theorem Agrees.bind {f : Expr × List Token → Except ParseError (Expr × List Token)}
    (h : Agrees last depth tokens opened verdict x)
    (hnext : ∀ e after, x = .ok (e, after) → Complete last after →
      Agrees last depth after opened (Sweep.verdict ⟨opened, false⟩ after) (f (e, after))) :
    Agrees last depth tokens opened verdict (x >>= f) := by
  cases x with
  | error e => exact h
  | ok r =>
    obtain ⟨e, after⟩ := r
    obtain ⟨hcomplete, hlevels, rfl⟩ := h
    have hagrees := hnext e after rfl hcomplete
    change Agrees last depth tokens opened _ (f (e, after))
    generalize f (e, after) = y at hagrees
    cases y with
    | error e' => exact hagrees.imp_left fun ⟨heq, hle⟩ => ⟨heq, hle.trans hlevels⟩
    | ok r' => exact ⟨hagrees.1, hagrees.2.1.trans hlevels, hagrees.2.2⟩

/-- One more level is left before a token that opens one. -/
theorem Agrees.cons {token : Token} (h : Agrees last depth tokens opened verdict x)
    (htoken : opensLevel token) {depth' : ℕ} (hdepth : depth' ≤ depth + 1) :
    Agrees last depth' (token :: tokens) opened verdict x := by
  have hlevels := levels_cons htoken tokens
  cases x with
  | error e => exact h.imp_left fun ⟨heq, hle⟩ => ⟨heq, by omega⟩
  | ok r => exact ⟨h.1, by have := h.2.1; omega, h.2.2⟩

end Agrees

/-- Reading the tokens agrees with the pass, whatever parentheses are open. -/
structure Follows (last : Token) (tokens : List Token) : Prop where
  operand : ∀ depth opened, Agrees last depth tokens opened (Sweep.verdict ⟨opened, true⟩ tokens)
    (plainOperand last depth tokens)
  operators : ∀ depth least left opened, Agrees last depth tokens opened
    (Sweep.verdict ⟨opened, false⟩ tokens) (plainOperators last depth least left tokens)
  expression : ∀ depth least opened, Agrees last depth tokens opened
    (Sweep.verdict ⟨opened, true⟩ tokens) (plainFrom last depth least tokens)

section Follows

variable {last : Token} {tokens : List Token}

/-- What follows an expression is no operator. -/
theorem Complete.not_operator {token : Token} {rest : List Token}
    (h : Complete last (token :: rest)) (hnext : operatorAt? 0 token = none) (symbol : String) :
    token.kind ≠ .operator symbol := by
  intro hkind
  have hknown : (Operator.ofSymbol? symbol).isSome := by
    cases h with
    | finish hlast => cases hlast.symm.trans hkind
    | cons _ hknown _ => rwa [hkind] at hknown
  obtain ⟨operator, hoperator⟩ := Option.isSome_iff_exists.1 hknown
  have hsome := operatorAt?_eq_some_iff.2 ⟨hkind, hoperator, Nat.zero_le _⟩
  cases hnext.symm.trans hsome

/-- Behind the expression in a parenthesis, the next token closes it or fails. -/
theorem group_follows {depth : ℕ} {opening : Token} {r : Expr × List Token}
    (hcomplete : Complete last r.2) (hlevels : levels r.2 ≤ levels tokens)
    (hnext : operatorAt? 0 (peek last r.2) = none) (opened : List Span) :
    Agrees last depth tokens opened (Sweep.verdict ⟨opening.span :: opened, false⟩ r.2)
      (match r.2 with
        | [] => .error (if last.kind = .closing then .outOfTokens else .missingClosing opening.span)
        | close :: after =>
          if close.kind = .closing then .ok (group r.1 (opening.span.cover close.span), after)
          else .error (.missingClosing opening.span)) := by
  obtain ⟨inner, _ | ⟨close, after⟩⟩ := r
  · cases hcomplete
  dsimp only at hcomplete hlevels ⊢
  split_ifs with hclose
  · rw [Sweep.verdict_of_step (Sweep.step_closing opened hclose opening.span)]
    cases hcomplete with
    | finish hlast => cases hlast.symm.trans hclose
    | cons _ _ hrest => exact ⟨hrest, (levels_le_cons close after).trans hlevels, rfl⟩
  · rw [Sweep.verdict_of_fault (Sweep.step_behind_eq_none _ (hcomplete.not_operator hnext)
      (fun h => absurd h hclose) fun _ => List.cons_ne_nil _ _)]
    exact .inr rfl

/-- An operand goes the way of the pass, by the induction on the number of tokens. -/
theorem operand_follows (hcomplete : Complete last tokens)
    (ih : ∀ rest, rest.length < tokens.length → Complete last rest → Follows last rest) (depth : ℕ)
    (opened : List Span) : Agrees last depth tokens opened (Sweep.verdict ⟨opened, true⟩ tokens)
      (plainOperand last depth tokens) := by
  obtain _ | depth := depth
  · rw [plainOperand_zero]
    exact .inl ⟨rfl, Nat.zero_le _⟩
  obtain _ | ⟨token, rest⟩ := tokens
  · cases hcomplete
  cases hbegins : token.kind.beginsOperand with
  | false =>
    rw [plainOperand_refused hbegins, Sweep.verdict_of_fault (Sweep.step_refused opened hbegins)]
    exact .inr rfl
  | true =>
    have hrest : Complete last rest := by
      cases hcomplete with
      | finish hlast => rw [hlast] at hbegins; cases hbegins
      | cons _ _ hrest => exact hrest
    have ih := ih rest (Nat.lt_succ_self _) hrest
    cases hkind : token.kind with
    | number value =>
      rw [plainOperand_number hkind, Sweep.verdict_of_step (Sweep.step_number opened hkind)]
      exact ⟨hrest, levels_le_cons token rest, rfl⟩
    | operator symbol =>
      rw [hkind] at hbegins
      have hopens : opensLevel token := by rw [opensLevel, hkind]
      rw [plainOperand_sign hkind hbegins,
        Sweep.verdict_of_step (Sweep.step_sign opened hkind hbegins)]
      exact ((ih.operand depth opened).cons hopens le_rfl).bind fun e after _ hafter =>
        ⟨hafter, le_rfl, rfl⟩
    | opening =>
      have hopens : opensLevel token := by rw [opensLevel, hkind]
      have hagrees := (ih.expression depth 0 (token.span :: opened)).cons hopens le_rfl
      rw [plainOperand_opening hkind, Sweep.verdict_of_step (Sweep.step_opening opened hkind)]
      cases hread : plainFrom last depth 0 rest with
      | error e =>
        rw [hread] at hagrees
        exact hagrees
      | ok r =>
        rw [hread] at hagrees
        obtain ⟨hafter, hlevels, heq⟩ := hagrees
        obtain ⟨-, -, -, -, -, hnext⟩ := (sound last rest).expression _ _ _ hread
        rw [heq]
        exact group_follows hafter hlevels hnext opened
    | closing | finish =>
      rw [hkind] at hbegins
      cases hbegins

/-- So do operators with their right operands. -/
theorem operators_follow (hcomplete : Complete last tokens)
    (ih : ∀ rest, rest.length < tokens.length → Complete last rest → Follows last rest)
    (depth least : ℕ) (left : Expr) (opened : List Span) : Agrees last depth tokens opened
      (Sweep.verdict ⟨opened, false⟩ tokens) (plainOperators last depth least left tokens) := by
  cases hnext : operatorAt? least (peek last tokens) with
  | none =>
    rw [plainOperators_none hnext]
    exact ⟨hcomplete, le_rfl, rfl⟩
  | some next =>
    obtain ⟨symbol, operator⟩ := next
    have hkind := (operatorAt?_eq_some_iff.1 hnext).1
    cases hcomplete with
    | finish hlast => cases hlast.symm.trans hkind
    | @cons token rest _ _ hrest =>
      have hkind : token.kind = .operator symbol := hkind
      have hopens : opensLevel token := by rw [opensLevel, hkind]
      have hright := (ih rest (Nat.lt_succ_self _) hrest).expression (depth - 1)
        operator.rightStrength opened
      rw [plainOperators_some (show operatorAt? least token = some (symbol, operator) from hnext),
        Sweep.verdict_of_step (Sweep.step_operator opened hkind)]
      refine (hright.cons hopens (by omega)).bind fun right after hread hafter => ?_
      have hshorter := (length_lt_of_plainFrom hread).trans (Nat.lt_succ_self _)
      exact (ih after hshorter hafter).operators _ _ _ _

/-- So does an operand with the operators behind it. -/
theorem expression_follows (hcomplete : Complete last tokens)
    (ih : ∀ rest, rest.length < tokens.length → Complete last rest → Follows last rest)
    (depth least : ℕ) (opened : List Span) : Agrees last depth tokens opened
      (Sweep.verdict ⟨opened, true⟩ tokens) (plainFrom last depth least tokens) := by
  rw [plainFrom_eq]
  exact (operand_follows hcomplete ih depth opened).bind fun left after hread hafter =>
    (ih after (length_lt_of_plainOperand hread) hafter).operators _ _ _ _

end Follows

/-- **Reading goes the way of the pass.** -/
theorem follows {last : Token} {tokens : List Token} (h : Complete last tokens) :
    Follows last tokens := by
  induction hlength : tokens.length using Nat.strong_induction_on generalizing tokens with
  | _ n ih =>
    have ih : ∀ rest, rest.length < tokens.length → Complete last rest → Follows last rest :=
      fun rest hrest hcomplete => ih rest.length (hlength ▸ hrest) hcomplete rfl
    exact ⟨operand_follows h ih, operators_follow h ih, expression_follows h ih⟩

/-- Known tokens in front of the end are complete. -/
theorem complete_append {body : List Token} {last : Token} (hlast : last.kind = .finish)
    (hbody : ∀ token ∈ body, token.kind ≠ .finish)
    (hknown : ∀ token ∈ body, token.kind.isKnown) : Complete last (body ++ [last]) := by
  induction body with
  | nil => exact .finish hlast
  | cons token body ih =>
    obtain ⟨htoken, hbody⟩ := List.forall_mem_cons.1 hbody
    obtain ⟨hoperator, hknown⟩ := List.forall_mem_cons.1 hknown
    exact .cons htoken hoperator (ih hbody hknown)

/-- Behind a whole expression there is the end, or the first token that cannot stand there. -/
theorem ofTokens_verdict {body : List Token} {last : Token}
    (hcomplete : Complete last (body ++ [last])) :
    ofTokens (body ++ [last]) = .error (depthError last) ∧
        nestingLimit ≤ levels (body ++ [last]) ∨
      match Sweep.verdict ⟨[], true⟩ (body ++ [last]) with
      | none => ∃ e, ofTokens (body ++ [last]) = .ok e
      | some error => ofTokens (body ++ [last]) = .error error := by
  have hagrees := (follows hcomplete).expression nestingLimit 0 []
  rw [ofTokens_append]
  cases hread : plainFrom last nestingLimit 0 (body ++ [last]) with
  | error e =>
    rw [hread] at hagrees
    obtain ⟨rfl, hlevels⟩ | hverdict := hagrees
    · exact .inl ⟨rfl, hlevels⟩
    · rw [hverdict]
      exact .inr rfl
  | ok r =>
    obtain ⟨-, -, -, -, -, hnext⟩ := (sound last _).expression _ _ _ hread
    rw [hread] at hagrees
    obtain ⟨e, _ | ⟨next, after⟩⟩ := r
    · cases hagrees.1
    obtain ⟨hafter, -, hverdict⟩ := hagrees
    rw [hverdict]
    refine .inr ?_
    cases hafter with
    | finish hlast =>
      rw [Sweep.verdict_of_step (Sweep.step_finish hlast)]
      exact ⟨e, if_pos hlast⟩
    | cons hfinish hknown hrest =>
      have hnone := (Complete.cons hfinish hknown hrest).not_operator hnext
      rw [Sweep.verdict_of_fault
        (Sweep.step_behind_eq_none [] hnone (fun _ => rfl) fun h => absurd h hfinish)]
      exact if_neg hfinish

/-- **Syntax errors are those of one pass.** Let a list of tokens end in its only end token, and let
its operators be known. Unless there are too many levels, it is read if every token can stand where
it does, and otherwise the error is that of the first token that cannot. There are not too many
levels if fewer tokens can open one. -/
theorem ofTokens_sweep {body : List Token} {last : Token} (hlast : last.kind = .finish)
    (hbody : ∀ token ∈ body, token.kind ≠ .finish)
    (hknown : ∀ token ∈ body, token.kind.isKnown) :
    (ofTokens (body ++ [last]) ≠ .error (depthError last) →
      ((∃ e, ofTokens (body ++ [last]) = .ok e) ↔
        Sweep.firstFault ⟨[], true⟩ (body ++ [last]) = none) ∧
      ∀ s token, Sweep.firstFault ⟨[], true⟩ (body ++ [last]) = some (s, token) →
        ∃ error, ofTokens (body ++ [last]) = .error error ∧ ∀ source, error.report? source =
          some ⟨.syntactic, (s.complaint token).1, (s.complaint token).2, source⟩) ∧
      (levels (body ++ [last]) < nestingLimit →
        ofTokens (body ++ [last]) ≠ .error (depthError last)) := by
  have hread := ofTokens_verdict (complete_append hlast hbody hknown)
  rw [Sweep.verdict] at hread
  cases hfault : Sweep.firstFault ⟨[], true⟩ (body ++ [last]) with
  | none =>
    rw [hfault] at hread
    refine ⟨fun hdepth => ?_, fun hlevels hdepth => ?_⟩
    · have hok := hread.resolve_left fun h => hdepth h.1
      exact ⟨iff_of_true hok rfl, fun _ _ h => nomatch h⟩
    · obtain ⟨-, hle⟩ | ⟨e, he⟩ := hread
      · omega
      · cases he.symm.trans hdepth
  | some fault =>
    rw [hfault] at hread
    refine ⟨fun hdepth => ?_, fun hlevels hdepth => ?_⟩
    · have herror := hread.resolve_left fun h => hdepth h.1
      refine ⟨iff_of_false ?_ (Option.some_ne_none fault), ?_⟩
      · rintro ⟨e, he⟩
        cases he.symm.trans herror
      · rintro s token h
        cases h
        exact ⟨_, herror, Sweep.report?_error s token⟩
    · obtain ⟨-, hle⟩ | herror := hread
      · omega
      · exact fault.1.error_ne_tooDeep fault.2 _ (Except.error.inj (herror.symm.trans hdepth))

/-- A sum in two parentheses of which the outer one is not closed. -/
theorem ofTokens_sweep_unclosed :
    let body : List Token := [⟨.opening, "(", ⟨0, 1⟩⟩, ⟨.operator "-", "-", ⟨1, 2⟩⟩,
      ⟨.opening, "(", ⟨2, 3⟩⟩, ⟨.number .one, "1", ⟨3, 4⟩⟩, ⟨.closing, ")", ⟨4, 5⟩⟩,
      ⟨.operator "*", "*", ⟨5, 6⟩⟩, ⟨.number .one, "1", ⟨6, 7⟩⟩, ⟨.operator "+", "+", ⟨7, 8⟩⟩,
      ⟨.number .one, "1", ⟨8, 9⟩⟩]
    let last : Token := ⟨.finish, "", ⟨9, 9⟩⟩
    (∀ token ∈ body, token.kind ≠ .finish) ∧ (∀ token ∈ body, token.kind.isKnown) ∧
      ∃ error, ofTokens (body ++ [last]) = .error error ∧ error.report? "(-(1)*1+1" =
        some ⟨.syntactic, "missing closing parenthesis", ⟨0, 1⟩, "(-(1)*1+1"⟩ := by
  intro body last
  have hbody : ∀ token ∈ body, token.kind ≠ .finish := by decide
  have hknown : ∀ token ∈ body, token.kind.isKnown := by decide
  obtain ⟨hsweep, hdepth⟩ := @ofTokens_sweep body last rfl hbody hknown
  obtain ⟨-, hfault⟩ := hsweep (hdepth (by decide))
  obtain ⟨error, herror, hreport⟩ := hfault _ _ rfl
  exact ⟨hbody, hknown, error, herror, hreport _⟩

end Expr
end Reckoner
