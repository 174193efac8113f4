/-
# Progress of reading

The functions that read an expression call each other and themselves. `Expr.Calls` says which call
makes which: behind a sign and in a parenthesis an operand is read further, an expression is an
operand and the loop over the operators behind it, and each turn of the loop reads a right operand
and goes on.

| call | makes | with |
| --- | --- | --- |
| an operand | that behind its sign, the expression in its parenthesis | fewer tokens |
| an expression | its first operand | the same tokens |
| an expression | the loop behind its first operand | fewer tokens |
| the loop | the right operand, and itself for the next turn | fewer tokens |

Only the first operand of an expression is read without a token having been used, so chains of calls
are finite. If the last token is an end token, which no call uses, all calls have tokens to read:
there is no reading past the end, and a call that fails raises one of three errors or one of its
calls did (`Expr.Raises`). So reading ends with a tree or an error that has a report
(`ofTokens_progress`).
-/

import Mathlib.Logic.Relation
import Reckoner.Proofs.Expr.Grammar

namespace Reckoner

/-- Every error but one has a report, of the same message for all texts. -/
theorem ParseError.exists_report {e : ParseError} (h : e ≠ .outOfTokens) :
    ∃ message, ∀ source, ∃ span, e.report? source = some ⟨.syntactic, message, span, source⟩ := by
  cases e with
  | outOfTokens => exact absurd rfl h
  | _ => exact ⟨_, fun _ => ⟨_, rfl⟩⟩

namespace Expr

/-- A call of one of the functions that read. -/
inductive Call where
  | operand (depth : ℕ) (tokens : List Token)
  | operators (depth least : ℕ) (left : Expr) (tokens : List Token)
  | expression (depth least : ℕ) (tokens : List Token)

namespace Call

/-- The tokens that are left for a call. -/
def tokens : Call → List Token
  | operand _ tokens | operators _ _ _ tokens | expression _ _ tokens => tokens

/-- What a call ends with. -/
def run (last : Token) : Call → Except ParseError (Expr × List Token)
  | operand depth tokens => plainOperand last depth tokens
  | operators depth least left tokens => plainOperators last depth least left tokens
  | expression depth least tokens => plainFrom last depth least tokens

end Call

/-- Which calls a call makes. -/
inductive Calls (last : Token) : Call → Call → Prop
  /-- Behind a sign its operand is read. -/
  | sign {token : Token} {symbol : String} (hkind : token.kind = .operator symbol)
      (hsign : Operator.isSign symbol) (depth : ℕ) (rest : List Token) :
      Calls last (.operand (depth + 1) (token :: rest)) (.operand depth rest)
  /-- Behind a parenthesis the expression in it is read. -/
  | parenthesis {token : Token} (hkind : token.kind = .opening) (depth : ℕ) (rest : List Token) :
      Calls last (.operand (depth + 1) (token :: rest)) (.expression depth 0 rest)
  /-- An expression begins with an operand. -/
  | first (depth least : ℕ) (tokens : List Token) :
      Calls last (.expression depth least tokens) (.operand depth tokens)
  /-- Behind the first operand the loop begins. -/
  | loop {depth : ℕ} {tokens after : List Token} {left : Expr}
      (hleft : plainOperand last depth tokens = .ok (left, after)) (least : ℕ) :
      Calls last (.expression depth least tokens) (.operators depth least left after)
  /-- Behind an operator its right operand is read. -/
  | right {least : ℕ} {token : Token} {symbol : String} {operator : Operator}
      (hnext : operatorAt? least token = some (symbol, operator)) (depth : ℕ) (left : Expr)
      (rest : List Token) :
      Calls last (.operators depth least left (token :: rest))
        (.expression (depth - 1) operator.rightStrength rest)
  /-- Behind the right operand the loop turns. -/
  | turn {depth least : ℕ} {token : Token} {symbol : String} {operator : Operator}
      {right : Expr} {rest after : List Token}
      (hnext : operatorAt? least token = some (symbol, operator))
      (hright : plainFrom last (depth - 1) operator.rightStrength rest = .ok (right, after))
      (left : Expr) :
      Calls last (.operators depth least left (token :: rest))
        (.operators depth least (binary symbol left right (left.span.cover right.span)) after)

/-- The errors that a call raises itself. -/
inductive Raises (last : Token) : Call → ParseError → Prop
  | depth (tokens : List Token) : Raises last (.operand 0 tokens) (depthError last)
  | expected {token : Token} (hkind : token.kind.beginsOperand = false) (depth : ℕ)
      (rest : List Token) :
      Raises last (.operand (depth + 1) (token :: rest)) (.expectedOperand token.span)
  | unclosed {depth : ℕ} {token close : Token} {rest after : List Token} {inner : Expr}
      (hkind : token.kind = .opening)
      (hinner : plainFrom last depth 0 rest = .ok (inner, close :: after))
      (hclose : close.kind ≠ .closing) :
      Raises last (.operand (depth + 1) (token :: rest)) (.missingClosing token.span)

/-! ### Calls use up tokens -/

/-- That a call makes another one without having used a token: that of its first operand. -/
def Call.Begins (call next : Call) : Prop :=
  ∃ depth least tokens, call = .expression depth least tokens ∧ next = .operand depth tokens

/-- A call leaves fewer tokens to the next one, or begins with it. -/
theorem Calls.length_lt {last : Token} {call next : Call} (h : Calls last call next) :
    next.tokens.length < call.tokens.length ∨ call.Begins next := by
  cases h with
  | sign | parenthesis | right => exact .inl (Nat.lt_succ_self _)
  | first depth least tokens => exact .inr ⟨depth, least, tokens, rfl, rfl⟩
  | loop hleft => exact .inl (length_lt_of_plainOperand hleft)
  | turn _ hright => exact .inl ((length_lt_of_plainFrom hright).trans (Nat.lt_succ_self _))

/-- The measure of a call: an expression counts for more than its first operand. -/
def Call.weight : Call → ℕ
  | operand _ tokens | operators _ _ _ tokens => 2 * tokens.length
  | expression _ _ tokens => 2 * tokens.length + 1

/-- Each call has less weight than the one that makes it. -/
theorem Calls.weight_lt {last : Token} {call next : Call} (h : Calls last call next) :
    next.weight < call.weight := by
  obtain hlt | ⟨depth, least, tokens, rfl, rfl⟩ := h.length_lt
  · cases call <;> cases next <;> simp only [Call.weight, Call.tokens] at hlt ⊢ <;> omega
  · exact Nat.lt_succ_self _

/-- **Chains of calls are finite.** -/
theorem wellFounded_calls (last : Token) :
    WellFounded fun next call : Call => Calls last call next :=
  Subrelation.wf (fun h => h.weight_lt) (measure Call.weight).wf

/-! ### No call uses the end token -/

/-- That some tokens were used, no end token among them, and which ones are left. -/
def Uses (tokens after : List Token) : Prop :=
  ∃ used, tokens = used ++ after ∧ ∀ token ∈ used, token.kind ≠ .finish

namespace Uses

variable {tokens after behind : List Token}

/-- No token is used by doing nothing. -/
theorem refl (tokens : List Token) : Uses tokens tokens := ⟨[], rfl, by simp⟩

/-- One token more is used in front. -/
theorem cons {token : Token} (h : token.kind ≠ .finish) (h' : Uses tokens after) :
    Uses (token :: tokens) after := by
  obtain ⟨used, rfl, hused⟩ := h'
  exact ⟨token :: used, rfl, List.forall_mem_cons.2 ⟨h, hused⟩⟩

/-- What is used first and what is used next are used together. -/
theorem trans (h : Uses tokens after) (h' : Uses after behind) : Uses tokens behind := by
  obtain ⟨used, rfl, hused⟩ := h
  obtain ⟨used', rfl, hused'⟩ := h'
  refine ⟨used ++ used', (List.append_assoc ..).symm, fun token htoken => ?_⟩
  rcases List.mem_append.1 htoken with htoken | htoken
  · exact hused token htoken
  · exact hused' token htoken

/-- What is left is the end of the tokens. -/
theorem suffix (h : Uses tokens after) : after <:+ tokens := by
  obtain ⟨used, rfl, -⟩ := h
  exact List.suffix_append used after

/-- Tokens that ended in an end token still do. -/
theorem getLast?_eq {last : Token} (h : Uses tokens after) (hlast : tokens.getLast? = some last)
    (hfinish : last.kind = .finish) : after.getLast? = some last := by
  obtain ⟨used, rfl, hused⟩ := h
  cases after with
  | nil =>
    rw [List.append_nil] at hlast
    exact absurd hfinish (hused last (List.mem_of_getLast? hlast))
  | cons token after => rwa [List.getLast?_append_of_ne_nil _ (List.cons_ne_nil _ _)] at hlast

/-- The last token is left. -/
theorem ne_nil {last : Token} (h : Uses tokens after) (hlast : tokens.getLast? = some last)
    (hfinish : last.kind = .finish) : after ≠ [] := by
  rintro rfl
  cases h.getLast?_eq hlast hfinish

end Uses

/-- An operator is not the end. -/
theorem ne_finish_of_operatorAt? {least : ℕ} {token : Token} {next : String × Operator}
    (h : operatorAt? least token = some next) : token.kind ≠ .finish := by
  rw [(operatorAt?_eq_some_iff.1 h).1]
  exact nofun

variable {last : Token}

/-- An operand uses the tokens in front of what is left. -/
theorem uses_of_plainOperand {depth : ℕ} {tokens after : List Token} {e : Expr}
    (h : plainOperand last depth tokens = .ok (e, after)) : Uses tokens after := by
  obtain ⟨-, -, used, hused, hderives⟩ := (sound last tokens).operand depth _ h
  exact ⟨used, hused, hderives.kind_ne_finish⟩

/-- An expression uses the tokens in front of what is left. -/
theorem uses_of_plainFrom {depth least : ℕ} {tokens after : List Token} {e : Expr}
    (h : plainFrom last depth least tokens = .ok (e, after)) : Uses tokens after := by
  obtain ⟨used, hused, hderives, -⟩ := (sound last tokens).expression depth least _ h
  exact ⟨used, hused, hderives.kind_ne_finish⟩

/-- Operators use the tokens in front of what is left. -/
theorem uses_of_plainOperators {depth least : ℕ} {left : Expr} {tokens : List Token}
    {r : Expr × List Token} (h : plainOperators last depth least left tokens = .ok r) :
    Uses tokens r.2 := by
  induction hlength : tokens.length using Nat.strong_induction_on generalizing tokens left with
  | _ n ih =>
    cases hnext : operatorAt? least (peek last tokens) with
    | none =>
      rw [plainOperators_none hnext] at h
      cases h
      exact .refl tokens
    | some next =>
      obtain ⟨symbol, operator⟩ := next
      obtain _ | ⟨token, rest⟩ := tokens
      · rw [plainOperators_nil (show operatorAt? least last = _ from hnext)] at h
        cases h
      have hnext : operatorAt? least token = some (symbol, operator) := hnext
      rw [plainOperators_some hnext] at h
      obtain ⟨⟨right, behind⟩, hright, hbehind⟩ := bind_eq_ok_iff.1 h
      have hshorter := (length_lt_of_plainFrom hright).trans (Nat.lt_succ_self _)
      have hturns := ih behind.length (hlength ▸ hshorter) hbehind rfl
      exact ((uses_of_plainFrom hright).trans hturns).cons (ne_finish_of_operatorAt? hnext)

/-- A call leaves tokens behind those that it uses. -/
theorem Call.uses_of_run {call : Call} {e : Expr} {after : List Token}
    (h : call.run last = .ok (e, after)) : Uses call.tokens after := by
  cases call with
  | operand => exact uses_of_plainOperand h
  | operators => exact uses_of_plainOperators h
  | expression => exact uses_of_plainFrom h

/-- A call is made with tokens behind those that were used for it. -/
theorem Calls.uses {call next : Call} (h : Calls last call next) :
    Uses call.tokens next.tokens := by
  cases h with
  | sign hkind => exact (Uses.refl _).cons (hkind ▸ nofun)
  | parenthesis hkind => exact (Uses.refl _).cons (hkind ▸ nofun)
  | first => exact .refl _
  | loop hleft => exact uses_of_plainOperand hleft
  | right hnext => exact (Uses.refl _).cons (ne_finish_of_operatorAt? hnext)
  | turn hnext hright => exact (uses_of_plainFrom hright).cons (ne_finish_of_operatorAt? hnext)

/-- A chain of calls uses the tokens in front of those of the last one. -/
theorem uses_of_reaches {call next : Call} (h : Relation.ReflTransGen (Calls last) call next) :
    Uses call.tokens next.tokens := by
  induction h with
  | refl => exact .refl _
  | tail _ hnext ih => exact ih.trans hnext.uses

/-! ### Where errors come from -/

/-- The error of an operand is raised there or by a call that is made there. -/
theorem operand_eq_error {depth : ℕ} {tokens : List Token} (hlast : tokens.getLast? = some last)
    (hfinish : last.kind = .finish) {error : ParseError}
    (h : plainOperand last depth tokens = .error error) :
    Raises last (.operand depth tokens) error ∨
      ∃ next, Calls last (.operand depth tokens) next ∧ next.run last = .error error := by
  obtain _ | depth := depth
  · rw [plainOperand_zero] at h
    cases h
    exact .inl (.depth tokens)
  obtain _ | ⟨token, rest⟩ := tokens
  · cases hlast
  cases hbegins : token.kind.beginsOperand with
  | false =>
    rw [plainOperand_refused hbegins] at h
    cases h
    exact .inl (.expected hbegins depth rest)
  | true =>
    cases hkind : token.kind with
    | number value =>
      rw [plainOperand_number hkind] at h
      cases h
    | operator symbol =>
      rw [hkind] at hbegins
      rw [plainOperand_sign hkind hbegins] at h
      obtain h | ⟨_, -, h⟩ := bind_eq_error_iff.1 h
      · exact .inr ⟨_, .sign hkind hbegins depth rest, h⟩
      · cases h
    | opening =>
      rw [plainOperand_opening hkind] at h
      obtain h | ⟨⟨inner, after⟩, hinner, h⟩ := bind_eq_error_iff.1 h
      · exact .inr ⟨_, .parenthesis hkind depth rest, h⟩
      obtain _ | ⟨close, after⟩ := after
      · -- The expression in the parenthesis has left the end token.
        have huses := (uses_of_plainFrom hinner).cons (hkind ▸ nofun : token.kind ≠ .finish)
        exact absurd rfl (huses.ne_nil hlast hfinish)
      · dsimp only at h
        split_ifs at h with hclose
        cases h
        exact .inl (.unclosed hkind hinner hclose)
    | closing | finish =>
      rw [hkind] at hbegins
      cases hbegins

/-- The error of operators is raised by a call that is made there. -/
theorem operators_eq_error {depth least : ℕ} {left : Expr} {tokens : List Token}
    (hlast : tokens.getLast? = some last) {error : ParseError}
    (h : plainOperators last depth least left tokens = .error error) :
    ∃ next, Calls last (.operators depth least left tokens) next ∧
      next.run last = .error error := by
  obtain _ | ⟨token, rest⟩ := tokens
  · cases hlast
  cases hnext : operatorAt? least token with
  | none =>
    have hnone : operatorAt? least (peek last (token :: rest)) = none := hnext
    rw [plainOperators_none hnone] at h
    cases h
  | some next =>
    rw [plainOperators_some hnext] at h
    obtain h | ⟨⟨right, after⟩, hright, h⟩ := bind_eq_error_iff.1 h
    · exact ⟨_, .right hnext depth left rest, h⟩
    · exact ⟨_, .turn hnext hright left, h⟩

/-- **A call that fails raises the error itself, or a call that it makes fails with it.** -/
theorem Call.run_eq_error {call : Call} (hlast : call.tokens.getLast? = some last)
    (hfinish : last.kind = .finish) {error : ParseError} (h : call.run last = .error error) :
    Raises last call error ∨ ∃ next, Calls last call next ∧ next.run last = .error error := by
  cases call with
  | operand depth tokens => exact operand_eq_error hlast hfinish h
  | operators depth least left tokens => exact .inr (operators_eq_error hlast h)
  | expression depth least tokens =>
    have h : plainFrom last depth least tokens = .error error := h
    rw [plainFrom_eq] at h
    obtain h | ⟨⟨left, after⟩, hleft, h⟩ := bind_eq_error_iff.1 h
    · exact .inr ⟨_, .first depth least tokens, h⟩
    · exact .inr ⟨_, .loop hleft least, h⟩

/-- **An error is raised by a call that was made.** The induction is on the chains of calls. -/
theorem exists_raises (hfinish : last.kind = .finish) {error : ParseError} (call : Call)
    (hlast : call.tokens.getLast? = some last) (h : call.run last = .error error) :
    ∃ raising, Relation.ReflTransGen (Calls last) call raising ∧ Raises last raising error := by
  induction call using (wellFounded_calls last).induction with
  | _ call ih =>
    obtain hraises | ⟨next, hnext, hrun⟩ := call.run_eq_error hlast hfinish h
    · exact ⟨call, .refl, hraises⟩
    · obtain ⟨raising, hreaches, hraises⟩ :=
        ih next hnext (hnext.uses.getLast?_eq hlast hfinish) hrun
      exact ⟨raising, .head hnext hreaches, hraises⟩

/-- No call raises that the tokens are used up. -/
theorem Raises.ne_outOfTokens {call : Call} {error : ParseError} (h : Raises last call error) :
    error ≠ .outOfTokens := by
  cases h <;> exact nofun

/-! ### Whole lists -/

/-- The call that reads a whole list. -/
def Call.whole (tokens : List Token) (levels : ℕ := nestingLimit) : Call :=
  .expression levels 0 tokens

/-- A list is not read if it has too many levels or is no expression, as a call found, or if there
are tokens behind an expression. -/
theorem ofTokens_eq_error {tokens : List Token} (hlast : tokens.getLast? = some last)
    (hfinish : last.kind = .finish) {levels : ℕ} {error : ParseError}
    (h : ofTokens tokens levels = .error error) :
    (∃ raising, Relation.ReflTransGen (Calls last) (.whole tokens levels) raising ∧
      Raises last raising error) ∨ ∃ span, error = .trailing span := by
  obtain ⟨body, rfl⟩ := List.getLast?_eq_some_iff.1 hlast
  rw [ofTokens_append] at h
  obtain h | ⟨r, -, h⟩ := bind_eq_error_iff.1 h
  · exact .inl (exists_raises hfinish (.whole _ levels) hlast h)
  · split_ifs at h
    exact .inr ⟨_, (Except.error.inj h).symm⟩

/-- Tokens with an end are never used up. -/
theorem ofTokens_ne_outOfTokens (tokens : List Token) {last : Token} (hlast : last.kind = .finish)
    (levels : ℕ) : ofTokens (tokens ++ [last]) levels ≠ .error .outOfTokens := by
  intro h
  obtain ⟨_, -, hraises⟩ | ⟨_, htrailing⟩ := ofTokens_eq_error List.getLast?_concat hlast h
  · exact hraises.ne_outOfTokens rfl
  · cases htrailing

/-- **Reading stays within its tokens and ends.** Let the last token be an end token. Then reading
ends with a tree, or with an error that has a report. Whatever call is made on the way, there are
tokens left for it, which are behind all that were used, and it leaves some of them, or fails with
an error that it or a call under it raises. Each call has fewer tokens left than the one that makes
it, but for the first operand of an expression, which has as many, and every chain of calls ends. -/
theorem ofTokens_progress {tokens : List Token} (hlast : tokens.getLast? = some last)
    (hfinish : last.kind = .finish) :
    ((∃ e, ofTokens tokens = .ok e) ∨ ∃ error message, ofTokens tokens = .error error ∧
      ∀ source, ∃ span, error.report? source = some ⟨.syntactic, message, span, source⟩) ∧
    (∀ call, Relation.ReflTransGen (Calls last) (.whole tokens) call →
      call.tokens <:+ tokens ∧ call.tokens ≠ [] ∧
      (∀ e after, call.run last = .ok (e, after) → after <:+ call.tokens ∧ after ≠ []) ∧
      ∀ error, call.run last = .error error → error ≠ .outOfTokens ∧
        ∃ raising, Relation.ReflTransGen (Calls last) call raising ∧ Raises last raising error) ∧
    (∀ call next, Calls last call next →
      next.tokens.length < call.tokens.length ∨ call.Begins next) ∧
    WellFounded fun next call => Calls last call next := by
  refine ⟨?_, fun call hcall => ?_, fun _ _ h => h.length_lt, wellFounded_calls last⟩
  · cases h : ofTokens tokens with
    | ok e => exact .inl ⟨e, rfl⟩
    | error error =>
      obtain ⟨body, rfl⟩ := List.getLast?_eq_some_iff.1 hlast
      obtain ⟨message, hreport⟩ := ParseError.exists_report fun hout =>
        ofTokens_ne_outOfTokens body hfinish nestingLimit (hout ▸ h)
      exact .inr ⟨error, message, rfl, hreport⟩
  · have huses := uses_of_reaches hcall
    have hends := huses.getLast?_eq hlast hfinish
    refine ⟨huses.suffix, huses.ne_nil hlast hfinish, fun e after hrun => ?_, fun error hrun => ?_⟩
    · have hafter := Call.uses_of_run hrun
      exact ⟨hafter.suffix, hafter.ne_nil hends hfinish⟩
    · obtain ⟨raising, hreaches, hraises⟩ := exists_raises hfinish call hends hrun
      exact ⟨hraises.ne_outOfTokens, raising, hreaches, hraises⟩

/-- A list with an end token in its middle, where the operand of a sign is looked for. -/
theorem ofTokens_progress_interrupted :
    let last : Token := ⟨.finish, "", ⟨3, 3⟩⟩
    let tokens : List Token := [⟨.opening, "(", ⟨0, 1⟩⟩, ⟨.operator "-", "-", ⟨1, 2⟩⟩,
      ⟨.finish, "", ⟨2, 2⟩⟩, ⟨.operator "&", "&", ⟨2, 3⟩⟩, last]
    tokens.getLast? = some last ∧ last.kind = .finish ∧
      ofTokens tokens = .error (.expectedOperand ⟨2, 2⟩) ∧
      ∃ raising, Relation.ReflTransGen (Calls last) (.whole tokens) raising ∧
        Raises last raising (.expectedOperand ⟨2, 2⟩) ∧ raising.tokens <:+ tokens := by
  intro last tokens
  have hlast : tokens.getLast? = some last := rfl
  obtain ⟨-, hcalls, -, -⟩ := ofTokens_progress hlast rfl
  have hrun : (Call.whole tokens).run last = .error (.expectedOperand ⟨2, 2⟩) := by decide +kernel
  obtain ⟨-, raising, hreaches, hraises⟩ := (hcalls _ .refl).2.2.2 _ hrun
  exact ⟨hlast, rfl, by decide +kernel, raising, hreaches, hraises, (hcalls _ hreaches).1⟩

end Expr
end Reckoner
