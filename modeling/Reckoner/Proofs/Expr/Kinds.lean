/-
# Reading by kinds

What tokens are read as depends on what they are only, and not on how they are written or where they
stand: lists of the same kinds have trees of one shape with the same numbers, or errors of the same
wording (`ofTokens_similar`). The parser is followed on both lists at once; the levels that are left
are the same on both sides, so this holds of nesting too deeply as well.
-/

import Reckoner.Proofs.Expr.Matching
import Reckoner.Proofs.Expr.Shape

namespace Reckoner

/-- Errors that are reported alike, wherever they are. -/
def ParseError.SameWording (a b : ParseError) : Prop :=
  ∀ source other, (a.report? source).map Report.message = (b.report? other).map Report.message

namespace Expr

/-- Outcomes of reading that differ in spellings and places only. -/
inductive Similar : Except ParseError (Expr × List Token) →
    Except ParseError (Expr × List Token) → Prop
  | ok {d e : Expr} {rest rest' : List Token} : Matches (· = ·) d e →
      rest.map Token.kind = rest'.map Token.kind → Similar (.ok (d, rest)) (.ok (e, rest'))
  | error {a b : ParseError} : a.SameWording b → Similar (.error a) (.error b)

/-- Reading goes on alike where it was alike so far. -/
theorem Similar.bind {x y : Except ParseError (Expr × List Token)}
    {f g : Expr × List Token → Except ParseError (Expr × List Token)} (h : Similar x y)
    (hnext : ∀ d e rest rest', x = .ok (d, rest) → Matches (· = ·) d e →
      rest.map Token.kind = rest'.map Token.kind → Similar (f (d, rest)) (g (e, rest'))) :
    Similar (x >>= f) (y >>= g) := by
  cases h with
  | ok hmatches hkinds => exact hnext _ _ _ _ rfl hmatches hkinds
  | error hwording => exact .error hwording

/-- Reading two lists comes to similar outcomes. -/
structure Parallel (last last' : Token) (tokens tokens' : List Token) : Prop where
  operand : ∀ depth, Similar (plainOperand last depth tokens) (plainOperand last' depth tokens')
  operators : ∀ depth least left left', Matches (· = ·) left left' →
    Similar (plainOperators last depth least left tokens)
      (plainOperators last' depth least left' tokens')
  expression : ∀ depth least,
    Similar (plainFrom last depth least tokens) (plainFrom last' depth least tokens')

section Parallel

variable {last last' : Token} {tokens tokens' : List Token}

/-- Operands are read alike, by the induction on the number of tokens. -/
theorem operand_parallel (hlast : last.kind = .finish) (hlast' : last'.kind = .finish)
    (ih : ∀ rest rest', rest.length < tokens.length →
      rest.map Token.kind = rest'.map Token.kind → Parallel last last' rest rest')
    (h : tokens.map Token.kind = tokens'.map Token.kind) (depth : ℕ) :
    Similar (plainOperand last depth tokens) (plainOperand last' depth tokens') := by
  obtain _ | depth := depth
  · rw [plainOperand_zero, plainOperand_zero]
    exact .error fun _ _ => rfl
  obtain _ | ⟨token, rest⟩ := tokens
  · obtain rfl := List.map_eq_nil_iff.1 h.symm
    rw [plainOperand_nil hlast, plainOperand_nil hlast']
    exact .error fun _ _ => rfl
  obtain ⟨token', rest', rfl, hkind, hrest⟩ := List.map_eq_cons_iff.1 h.symm
  have ih := ih rest rest' (Nat.lt_succ_self _) hrest.symm
  cases hbegins : token.kind.beginsOperand with
  | false =>
    rw [plainOperand_refused hbegins, plainOperand_refused (hkind ▸ hbegins)]
    exact .error fun _ _ => rfl
  | true =>
    cases htoken : token.kind with
    | number value =>
      rw [plainOperand_number htoken, plainOperand_number (hkind.trans htoken)]
      exact .ok (.number rfl) hrest.symm
    | operator symbol =>
      rw [htoken] at hbegins
      rw [plainOperand_sign htoken hbegins, plainOperand_sign (hkind.trans htoken) hbegins]
      exact (ih.operand depth).bind fun d e after after' _ hmatches hafter =>
        .ok hmatches.unary hafter
    | opening =>
      rw [plainOperand_opening htoken, plainOperand_opening (hkind.trans htoken)]
      refine (ih.expression depth 0).bind fun d e after after' _ hmatches hafter => ?_
      obtain _ | ⟨close, after⟩ := after
      · obtain rfl := List.map_eq_nil_iff.1 hafter.symm
        simp only [hlast, hlast', reduceCtorEq, if_false]
        exact .error fun _ _ => rfl
      · obtain ⟨close', after', rfl, hclose, hafter⟩ := List.map_eq_cons_iff.1 hafter.symm
        simp only [hclose]
        split_ifs
        · exact .ok hmatches.group hafter.symm
        · exact .error fun _ _ => rfl
    | closing | finish =>
      rw [htoken] at hbegins
      cases hbegins

/-- So are operators with their right operands. -/
theorem operators_parallel (hlast : last.kind = .finish) (hlast' : last'.kind = .finish)
    (ih : ∀ rest rest', rest.length < tokens.length →
      rest.map Token.kind = rest'.map Token.kind → Parallel last last' rest rest')
    (h : tokens.map Token.kind = tokens'.map Token.kind) (depth least : ℕ) {left left' : Expr}
    (hleft : Matches (· = ·) left left') :
    Similar (plainOperators last depth least left tokens)
      (plainOperators last' depth least left' tokens') := by
  obtain _ | ⟨token, rest⟩ := tokens
  · -- The end token is no operator.
    obtain rfl := List.map_eq_nil_iff.1 h.symm
    have hnone {t : Token} (ht : t.kind = .finish) : operatorAt? least (peek t []) = none :=
      operatorAt?_of_not_operator (fun symbol hkind => by cases ht.symm.trans hkind) least
    rw [plainOperators_none (hnone hlast), plainOperators_none (hnone hlast')]
    exact .ok hleft rfl
  obtain ⟨token', rest', rfl, hkind, hrest⟩ := List.map_eq_cons_iff.1 h.symm
  have hnext : operatorAt? least token' = operatorAt? least token := by
    rw [operatorAt?, operatorAt?, hkind]
  cases hoperator : operatorAt? least token with
  | none =>
    have hnone : operatorAt? least (peek last (token :: rest)) = none := hoperator
    rw [plainOperators_none hnone,
      plainOperators_none (show operatorAt? least (peek last' (token' :: rest')) = none from
        hnext.trans hoperator)]
    exact .ok hleft h
  | some next =>
    obtain ⟨symbol, operator⟩ := next
    rw [plainOperators_some hoperator, plainOperators_some (hnext.trans hoperator)]
    refine ((ih rest rest' (Nat.lt_succ_self _) hrest.symm).expression _ _).bind
      fun right right' after after' hright hmatches hafter => ?_
    have hshorter : after.length < (token :: rest).length :=
      (length_lt_of_plainFrom hright).trans (Nat.lt_succ_self _)
    exact (ih after after' hshorter hafter).operators _ _ _ _ (hleft.binary hmatches)

/-- So are operands with the operators behind them. -/
theorem expression_parallel (hlast : last.kind = .finish) (hlast' : last'.kind = .finish)
    (ih : ∀ rest rest', rest.length < tokens.length →
      rest.map Token.kind = rest'.map Token.kind → Parallel last last' rest rest')
    (h : tokens.map Token.kind = tokens'.map Token.kind) (depth least : ℕ) :
    Similar (plainFrom last depth least tokens) (plainFrom last' depth least tokens') := by
  rw [plainFrom_eq, plainFrom_eq]
  refine (operand_parallel hlast hlast' ih h depth).bind
    fun left left' after after' hread hmatches hafter => ?_
  exact (ih after after' (length_lt_of_plainOperand hread) hafter).operators _ _ _ _ hmatches

end Parallel

/-- **Tokens of the same kinds are read in the same way.** -/
theorem parallel {last last' : Token} (hlast : last.kind = .finish) (hlast' : last'.kind = .finish)
    {tokens tokens' : List Token} (h : tokens.map Token.kind = tokens'.map Token.kind) :
    Parallel last last' tokens tokens' := by
  induction hlength : tokens.length using Nat.strong_induction_on generalizing tokens tokens' with
  | _ n ih =>
    have ih : ∀ rest rest', rest.length < tokens.length →
        rest.map Token.kind = rest'.map Token.kind → Parallel last last' rest rest' :=
      fun rest rest' hrest hkinds => ih rest.length (hlength ▸ hrest) hkinds rfl
    exact ⟨operand_parallel hlast hlast' ih h, fun depth least _ _ hleft =>
      operators_parallel hlast hlast' ih h depth least hleft, expression_parallel hlast hlast' ih h⟩

/-- **Lists of the same kinds have trees of one shape or errors of one wording.** -/
theorem ofTokens_similar {last last' : Token} (hlast : last.kind = .finish)
    (hlast' : last'.kind = .finish) {tokens tokens' : List Token}
    (h : tokens.map Token.kind = tokens'.map Token.kind) :
    (∃ d e, ofTokens (tokens ++ [last]) = .ok d ∧ ofTokens (tokens' ++ [last']) = .ok e ∧
        Matches (· = ·) d e) ∨
      ∃ a b, ofTokens (tokens ++ [last]) = .error a ∧ ofTokens (tokens' ++ [last']) = .error b ∧
        a.SameWording b := by
  have hkinds : (tokens ++ [last]).map Token.kind = (tokens' ++ [last']).map Token.kind := by
    rw [List.map_append, List.map_append, h, List.map_singleton, List.map_singleton, hlast, hlast']
  have hread := (parallel hlast hlast' hkinds).expression nestingLimit 0
  rw [ofTokens_append, ofTokens_append]
  generalize plainFrom last nestingLimit 0 (tokens ++ [last]) = x at hread
  generalize plainFrom last' nestingLimit 0 (tokens' ++ [last']) = y at hread
  cases hread with
  | @ok d e rest rest' hmatches hrest =>
    have hpeek : (peek last rest).kind = (peek last' rest').kind := by
      cases rest with
      | nil =>
        obtain rfl := List.map_eq_nil_iff.1 hrest.symm
        exact hlast.trans hlast'.symm
      | cons token rest =>
        obtain ⟨token', rest', rfl, hkind, -⟩ := List.map_eq_cons_iff.1 hrest.symm
        exact hkind.symm
    simp only [bind, Except.bind, hpeek]
    split_ifs
    · exact .inl ⟨d, e, rfl, rfl, hmatches⟩
    · exact .inr ⟨_, _, rfl, rfl, fun _ _ => rfl⟩
  | error hwording => exact .inr ⟨_, _, rfl, rfl, hwording⟩

end Expr
end Reckoner
