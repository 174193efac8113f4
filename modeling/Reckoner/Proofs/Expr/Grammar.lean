/-
# The trees that tokens write

`Expr.Derives tokens e` says that the tokens, from the first to the last one, write the tree `e`:
one rule for each kind of node, where an operand fits its place by strength. The parser reads by
strength, from left to right and with a loop; that it reads exactly these trees has two halves.

* `Derives.plain_append`: where tokens that write `e` are followed by one that does not go on with
  it, the parser comes to stand behind them with `e` in hand, unless `e` has too many levels.
* `sound`: what the parser took off the front of its tokens writes the tree that it returned.

The parser returns its trees with the proof that tokens were used. `plainFrom` and its companions
are the same functions without that proof, with one equation for each way on.
-/

import Mathlib.Tactic.Linarith
import Reckoner.Proofs.Expr.Binding
import Reckoner.Proofs.Outcome

namespace Reckoner

/-- Whether an operand can begin with a token of some kind. -/
def Token.Kind.beginsOperand : Token.Kind → Bool
  | number _ | opening => true
  | operator symbol => Operator.isSign symbol
  | closing | finish => false

namespace Expr

/-! ### The parser without its bounds -/

/-- `readOperand` without its bound. -/
def plainOperand (last : Token) (depth : ℕ) (tokens : List Token) :
    Except ParseError (Expr × List Token) := (readOperand last depth tokens).map Subtype.val

/-- `readOperators` without its bound. -/
def plainOperators (last : Token) (depth least : ℕ) (left : Expr) (tokens : List Token) :
    Except ParseError (Expr × List Token) :=
  (readOperators last depth least left tokens).map Subtype.val

/-- `readFrom` without its bound. -/
def plainFrom (last : Token) (depth least : ℕ) (tokens : List Token) :
    Except ParseError (Expr × List Token) := (readFrom last depth least tokens).map Subtype.val

/-- No operand is read without a level. -/
theorem plainOperand_zero (last : Token) (tokens : List Token) :
    plainOperand last 0 tokens = .error (depthError last) := by
  rw [plainOperand, readOperand]; rfl

/-- A number is an operand. -/
theorem plainOperand_number {token : Token} {value : Decimal} (h : token.kind = .number value)
    (last : Token) (depth : ℕ) (rest : List Token) :
    plainOperand last (depth + 1) (token :: rest) =
      .ok (number value token.raw token.span, rest) := by
  rw [plainOperand, readOperand, h]; rfl

/-- A sign is read with the operand behind it. -/
theorem plainOperand_sign {token : Token} {symbol : String} (h : token.kind = .operator symbol)
    (hsign : Operator.isSign symbol) (last : Token) (depth : ℕ) (rest : List Token) :
    plainOperand last (depth + 1) (token :: rest) = plainOperand last depth rest >>= fun r =>
      .ok (unary symbol r.1 (token.span.cover r.1.span), r.2) := by
  rw [plainOperand, readOperand, h]
  simp only [hsign, if_true, plainOperand]
  cases readOperand last depth rest <;> rfl

/-- Behind a parenthesis a whole expression is read, and the other parenthesis. -/
theorem plainOperand_opening {token : Token} (h : token.kind = .opening) (last : Token) (depth : ℕ)
    (rest : List Token) :
    plainOperand last (depth + 1) (token :: rest) = plainFrom last depth 0 rest >>= fun r =>
      match r.2 with
      | [] => .error (if last.kind = .closing then .outOfTokens else .missingClosing token.span)
      | close :: after =>
        if close.kind = .closing then .ok (group r.1 (token.span.cover close.span), after)
        else .error (.missingClosing token.span) := by
  rw [plainOperand, readOperand, h]
  simp only [plainFrom]
  cases readFrom last depth 0 rest with
  | error e => rfl
  | ok r =>
    obtain ⟨⟨inner, after⟩, hr⟩ := r
    cases after with
    | nil => rfl
    | cons close after =>
      by_cases hclose : close.kind = .closing
      · simp only [bind, Except.bind, Except.map, if_pos hclose]; rfl
      · simp only [bind, Except.bind, Except.map, if_neg hclose]

/-- An operand that begins with no number, sign or parenthesis fails at once. -/
theorem plainOperand_refused {token : Token} (h : token.kind.beginsOperand = false) (last : Token)
    (depth : ℕ) (rest : List Token) :
    plainOperand last (depth + 1) (token :: rest) = .error (.expectedOperand token.span) := by
  rw [plainOperand, readOperand]
  cases hkind : token.kind with
  | operator symbol =>
    rw [hkind] at h
    simp only [show Operator.isSign symbol = false from h]
    rfl
  | closing | finish => rfl
  | number | opening =>
    rw [hkind] at h
    cases h

/-- At the end of the tokens there is no operand. -/
theorem plainOperand_nil {last : Token} (h : last.kind = .finish) (depth : ℕ) :
    plainOperand last (depth + 1) [] = .error (.expectedOperand last.span) := by
  rw [plainOperand, readOperand, h]; rfl

/-- An expression is an operand with the operators behind it. -/
theorem plainFrom_eq (last : Token) (depth least : ℕ) (tokens : List Token) :
    plainFrom last depth least tokens =
      plainOperand last depth tokens >>= fun r => plainOperators last depth least r.1 r.2 := by
  rw [plainFrom, readFrom, plainOperand]
  cases readOperand last depth tokens with
  | error e => rfl
  | ok r =>
    simp only [plainOperators, bind, Except.bind, Except.map]
    cases readOperators last depth least r.1.1 r.1.2 <;> rfl

/-- Where no operator is strong enough, what is on the left is returned. -/
theorem plainOperators_none {last : Token} {least : ℕ} {tokens : List Token}
    (h : operatorAt? least (peek last tokens) = none) (depth : ℕ) (left : Expr) :
    plainOperators last depth least left tokens = .ok (left, tokens) := by
  rw [plainOperators, readOperators.eq_def, h]; rfl

/-- If the last token is an operator, reading it goes past the end of the tokens. -/
theorem plainOperators_nil {last : Token} {least : ℕ} {next : String × Operator}
    (h : operatorAt? least last = some next) (depth : ℕ) (left : Expr) :
    plainOperators last depth least left [] = .error .outOfTokens := by
  have hpeek : operatorAt? least (peek last []) = some next := h
  rw [plainOperators, readOperators.eq_def, hpeek]; rfl

/-- An operator that is strong enough takes its right operand, and the loop goes on. -/
theorem plainOperators_some {least : ℕ} {token : Token} {symbol : String} {operator : Operator}
    (h : operatorAt? least token = some (symbol, operator)) (last : Token) (depth : ℕ) (left : Expr)
    (rest : List Token) :
    plainOperators last depth least left (token :: rest) =
      plainFrom last (depth - 1) operator.rightStrength rest >>= fun r =>
        plainOperators last depth least (binary symbol left r.1 (left.span.cover r.1.span))
          r.2 := by
  have hpeek : operatorAt? least (peek last (token :: rest)) = some (symbol, operator) := h
  rw [plainOperators, readOperators.eq_def, hpeek, plainFrom]
  simp only
  cases readFrom last (depth - 1) operator.rightStrength rest with
  | error e => rfl
  | ok r =>
    simp only [plainOperators, bind, Except.bind, Except.map]
    cases readOperators last depth least _ r.1.2 <;> rfl

/-- Reading an operand uses tokens. -/
theorem length_lt_of_plainOperand {last : Token} {depth : ℕ} {tokens : List Token}
    {r : Expr × List Token} (h : plainOperand last depth tokens = .ok r) :
    r.2.length < tokens.length := by
  rw [plainOperand] at h
  cases hread : readOperand last depth tokens with
  | error e => rw [hread] at h; cases h
  | ok s => rw [hread] at h; cases h; exact s.2

/-- Reading an expression uses tokens. -/
theorem length_lt_of_plainFrom {last : Token} {depth least : ℕ} {tokens : List Token}
    {r : Expr × List Token} (h : plainFrom last depth least tokens = .ok r) :
    r.2.length < tokens.length := by
  rw [plainFrom] at h
  cases hread : readFrom last depth least tokens with
  | error e => rw [hread] at h; cases h
  | ok s => rw [hread] at h; cases h; exact s.2

/-! ### The grammar -/

/-- The tokens write the tree, and its spans are theirs. -/
inductive Derives : List Token → Expr → Prop
  | number {token : Token} {value : Decimal} : token.kind = .number value →
      Derives [token] (.number value token.raw token.span)
  | group {opening closing : Token} {tokens : List Token} {inner : Expr} :
      opening.kind = .opening → closing.kind = .closing → Derives tokens inner →
        Derives (opening :: (tokens ++ [closing])) (.group inner (opening.span.cover closing.span))
  | unary {token : Token} {symbol : String} {tokens : List Token} {operand : Expr} :
      token.kind = .operator symbol → Operator.isSign symbol → Derives tokens operand →
        operand.isBinary = false →
          Derives (token :: tokens) (.unary symbol operand (token.span.cover operand.span))
  | binary {token : Token} {symbol : String} {operator : Operator} {before after : List Token}
      {left right : Expr} : token.kind = .operator symbol →
      Operator.ofSymbol? symbol = some operator → Derives before left → Derives after right →
        left.atLeast operator.leftStrength → right.atLeast operator.rightStrength →
          Derives (before ++ token :: after)
            (.binary symbol left right (left.span.cover right.span))

/-- The levels that are left for the right operand are those that the parser leaves. -/
theorem nesting_binary_le_iff (symbol : String) (left right : Expr) (span : Span) (depth : ℕ) :
    (binary symbol left right span).nesting ≤ depth ↔
      left.nesting ≤ depth ∧ right.nesting ≤ depth - 1 := by
  have hpos := left.nesting_pos
  rw [nesting, Nat.max_le]
  omega

/-- No tree is written without tokens. -/
theorem Derives.ne_nil {tokens : List Token} {e : Expr} (h : Derives tokens e) : tokens ≠ [] := by
  cases h <;> simp

/-- What is written binds strongly enough for a place that asks for nothing. -/
theorem Derives.atLeast_zero {tokens : List Token} {e : Expr} (h : Derives tokens e) :
    e.atLeast 0 := by
  cases h with
  | binary _ hsymbol => exact (atLeast_iff hsymbol).2 (Nat.zero_le _)
  | _ => rfl

/-! ### Everything that is written is read -/

/-- The outcome of reading on behind a tree, or of the tree if that has too many levels. -/
def within {α : Type} (last : Token) (depth : ℕ) (e : Expr) (outcome : Except ParseError α) :
    Except ParseError α := if e.nesting ≤ depth then outcome else .error (depthError last)

/-- A limit on the levels of one stage is one on the stages behind it. -/
theorem within_bind {α β : Type} (last : Token) (depth : ℕ) (e : Expr)
    (outcome : Except ParseError α) (next : α → Except ParseError β) :
    within last depth e outcome >>= next = within last depth e (outcome >>= next) := by
  rw [within, within]
  split_ifs <;> rfl

/-- A tree with one level more is within one level more. -/
theorem within_of_nesting {α : Type} {d e : Expr} {depth : ℕ} (h : d.nesting = e.nesting + 1)
    (last : Token) (outcome : Except ParseError α) :
    within last (depth + 1) d outcome = within last depth e outcome := by
  rw [within, within, h]
  simp only [Nat.add_le_add_iff_right]

/-- Where an operand was read, the loop goes on. -/
theorem plainFrom_of_plainOperand {last : Token} {depth : ℕ} {tokens after : List Token} {e : Expr}
    (h : plainOperand last depth tokens = within last depth e (.ok (e, after))) (least : ℕ) :
    plainFrom last depth least tokens =
      within last depth e (plainOperators last depth least e after) := by
  rw [plainFrom_eq, h, within_bind]; rfl

/-- **Tokens that write a tree are read as that tree**, up to a token that does not go on with it.
The induction is on the tree. Its left edge is read by the loop, so the statement leaves the loop to
run on behind the tree; where a right operand ends is known from where the tree ends. -/
theorem Derives.plain_append {used : List Token} {e : Expr} (h : Derives used e) (last : Token)
    (depth : ℕ) (after : List Token) :
    (e.isBinary = false → plainOperand last depth (used ++ after) =
        within last depth e (.ok (e, after))) ∧
      ∀ least, e.atLeast least → e.endsAt (peek last after) →
        plainFrom last depth least (used ++ after) =
          within last depth e (plainOperators last depth least e after) := by
  induction h generalizing depth after with
  | @number token value hkind =>
    have hread : plainOperand last depth ([token] ++ after) =
        within last depth (.number value token.raw token.span)
          (.ok (.number value token.raw token.span, after)) := by
      cases depth with
      | zero => rw [plainOperand_zero]; rfl
      | succ depth => exact plainOperand_number hkind last depth after
    exact ⟨fun _ => hread, fun least _ _ => plainFrom_of_plainOperand hread least⟩
  | @group opening closing tokens inner hopening hclosing hinner ih =>
    have hread : plainOperand last depth (opening :: (tokens ++ [closing]) ++ after) =
        within last depth (.group inner (opening.span.cover closing.span))
          (.ok (.group inner (opening.span.cover closing.span), after)) := by
      cases depth with
      | zero => rw [plainOperand_zero]; rfl
      | succ depth =>
        have hends : operatorAt? 0 (peek last (closing :: after)) = none :=
          operatorAt?_of_not_operator (fun symbol h => by cases hclosing.symm.trans h) 0
        have hfrom := (ih depth (closing :: after)).2 0 hinner.atLeast_zero
          (endsAt_of_atLeast hinner.atLeast_zero hends)
        rw [plainOperators_none hends] at hfrom
        rw [List.cons_append, List.append_assoc, plainOperand_opening hopening]
        change plainFrom last depth 0 (tokens ++ closing :: after) >>= _ = _
        rw [hfrom, within_bind, within_of_nesting (e := inner) rfl]
        simp only [bind, Except.bind, if_pos hclosing]
    exact ⟨fun _ => hread, fun least _ _ => plainFrom_of_plainOperand hread least⟩
  | @unary token symbol tokens operand hkind hsign _ hbinary ih =>
    have hread : plainOperand last depth (token :: tokens ++ after) =
        within last depth (.unary symbol operand (token.span.cover operand.span))
          (.ok (.unary symbol operand (token.span.cover operand.span), after)) := by
      cases depth with
      | zero => rw [plainOperand_zero]; rfl
      | succ depth =>
        rw [List.cons_append, plainOperand_sign hkind hsign, (ih depth after).1 hbinary,
          within_bind, within_of_nesting (e := operand) rfl]
        rfl
    exact ⟨fun _ => hread, fun least _ _ => plainFrom_of_plainOperand hread least⟩
  | @binary token symbol operator before behind left right hkind hsymbol hl hr hleft hright ihl
      ihr =>
    refine ⟨fun h => absurd h (by simp [isBinary]), fun least hleast hends => ?_⟩
    rw [atLeast_iff hsymbol] at hleast
    rw [endsAt_iff hsymbol] at hends
    -- The left operand is read up to the operator, which is strong enough to be taken here.
    have hbefore := (ihl depth (token :: (behind ++ after))).2 least
      (atLeast_mono (le_trans hleast operator.strength_le_leftStrength) hleft)
      ((atLeast_leftStrength_iff hkind hsymbol hl.atLeast_zero).1 hleft)
    have hnext := operatorAt?_eq_some_iff.2 ⟨hkind, hsymbol, hleast⟩
    -- The right operand is read up to where the tree ends.
    have hbehind := (ihr (depth - 1) after).2 operator.rightStrength hright
      (endsAt_of_atLeast hright hends)
    rw [plainOperators_none hends] at hbehind
    rw [List.append_assoc, List.cons_append, hbefore, plainOperators_some hnext, hbehind,
      within_bind, within, within, within,
      if_congr (nesting_binary_le_iff symbol left right _ depth)
        rfl rfl, ite_and]
    rfl

/-! ### Only what is written is read -/

/-- What an operand that was read begins with, and how it goes on. -/
theorem plainOperand_eq_ok {last : Token} {depth : ℕ} {tokens after : List Token} {e : Expr}
    (h : plainOperand last depth tokens = .ok (e, after)) :
    ∃ levels token rest, depth = levels + 1 ∧ tokens = token :: rest ∧
      ((∃ value, token.kind = .number value ∧ e = number value token.raw token.span ∧
          after = rest) ∨
        (∃ symbol operand, token.kind = .operator symbol ∧ Operator.isSign symbol ∧
          plainOperand last levels rest = .ok (operand, after) ∧
          e = unary symbol operand (token.span.cover operand.span)) ∨
        ∃ inner closing, token.kind = .opening ∧ closing.kind = .closing ∧
          plainFrom last levels 0 rest = .ok (inner, closing :: after) ∧
          e = group inner (token.span.cover closing.span)) := by
  obtain _ | levels := depth
  · rw [plainOperand_zero] at h; cases h
  obtain _ | ⟨token, rest⟩ := tokens
  · rw [plainOperand, readOperand] at h
    split at h <;> cases h
  refine ⟨levels, token, rest, rfl, rfl, ?_⟩
  cases hkind : token.kind with
  | number value =>
    rw [plainOperand_number hkind] at h
    cases h
    exact .inl ⟨value, rfl, rfl, rfl⟩
  | operator symbol =>
    by_cases hsign : Operator.isSign symbol
    · rw [plainOperand_sign hkind hsign] at h
      obtain ⟨⟨operand, after⟩, hoperand, h⟩ := bind_eq_ok_iff.1 h
      cases h
      exact .inr (.inl ⟨symbol, operand, rfl, hsign, hoperand, rfl⟩)
    · rw [plainOperand, readOperand, hkind] at h
      simp only [if_neg hsign] at h
      cases h
  | opening =>
    rw [plainOperand_opening hkind] at h
    obtain ⟨⟨inner, after⟩, hinner, h⟩ := bind_eq_ok_iff.1 h
    cases after with
    | nil => cases h
    | cons closing after =>
      simp only at h
      split_ifs at h with hclosing
      cases h
      exact .inr (.inr ⟨inner, closing, rfl, hclosing, hinner, rfl⟩)
  | closing =>
    rw [plainOperand, readOperand, hkind] at h
    cases h
  | finish =>
    rw [plainOperand, readOperand, hkind] at h
    cases h

/-- The tokens `before`, and behind them those that were taken off `tokens`, write the tree: it fits
its place, and no operator of the place follows. -/
def Written (last : Token) (depth least : ℕ) (before tokens : List Token)
    (r : Expr × List Token) : Prop :=
  ∃ used, tokens = used ++ r.2 ∧ Derives (before ++ used) r.1 ∧ r.1.atLeast least ∧
    r.1.nesting ≤ depth ∧ operatorAt? least (peek last r.2) = none

/-- What is read off the front of the tokens is what they write. -/
structure Sound (last : Token) (tokens : List Token) : Prop where
  operand : ∀ depth r, plainOperand last depth tokens = .ok r →
    r.1.isBinary = false ∧ r.1.nesting ≤ depth ∧ ∃ used, tokens = used ++ r.2 ∧ Derives used r.1
  operators : ∀ depth least before left r, Derives before left → left.atLeast least →
    left.endsAt (peek last tokens) → left.nesting ≤ depth →
      plainOperators last depth least left tokens = .ok r → Written last depth least before tokens r
  expression : ∀ depth least r, plainFrom last depth least tokens = .ok r →
    Written last depth least [] tokens r

section Soundness

variable {last : Token} {tokens : List Token}

/-- An operand is what its tokens write if what is read behind its first token is. -/
theorem operand_sound (ih : ∀ rest, rest.length < tokens.length → Sound last rest) (depth : ℕ)
    (r : Expr × List Token) (h : plainOperand last depth tokens = .ok r) :
    r.1.isBinary = false ∧ r.1.nesting ≤ depth ∧
      ∃ used, tokens = used ++ r.2 ∧ Derives used r.1 := by
  obtain ⟨e, after⟩ := r
  obtain ⟨levels, token, rest, rfl, rfl, hcases⟩ := plainOperand_eq_ok h
  have ih := ih rest (Nat.lt_succ_self _)
  obtain ⟨value, hkind, rfl, rfl⟩ | ⟨symbol, operand, hkind, hsign, hoperand, rfl⟩ |
    ⟨inner, closing, hopening, hclosing, hinner, rfl⟩ := hcases
  · exact ⟨rfl, Nat.succ_le_succ (Nat.zero_le _), [token], rfl, .number hkind⟩
  · obtain ⟨hbinary, hnesting, used, rfl, hderives⟩ := ih.operand levels _ hoperand
    exact ⟨rfl, Nat.succ_le_succ hnesting, token :: used, rfl,
      .unary hkind hsign hderives hbinary⟩
  · obtain ⟨used, rfl, hderives, -, hnesting, -⟩ := ih.expression levels 0 _ hinner
    refine ⟨rfl, Nat.succ_le_succ hnesting, token :: (used ++ [closing]), ?_,
      .group hopening hclosing hderives⟩
    rw [List.cons_append, List.append_assoc]
    rfl

/-- The loop keeps that its tree is written by the tokens so far and ends before the next one. -/
theorem operators_sound (ih : ∀ rest, rest.length < tokens.length → Sound last rest)
    (depth least : ℕ) (before : List Token) (left : Expr) (r : Expr × List Token)
    (hleft : Derives before left) (hleast : left.atLeast least)
    (hends : left.endsAt (peek last tokens)) (hnesting : left.nesting ≤ depth)
    (h : plainOperators last depth least left tokens = .ok r) :
    Written last depth least before tokens r := by
  cases hnext : operatorAt? least (peek last tokens) with
  | none =>
    rw [plainOperators_none hnext] at h
    cases h
    exact ⟨[], rfl, by rwa [List.append_nil], hleast, hnesting, hnext⟩
  | some next =>
    obtain ⟨symbol, operator⟩ := next
    obtain _ | ⟨token, rest⟩ := tokens
    · rw [plainOperators_nil (show operatorAt? least last = _ from hnext)] at h; cases h
    have hnext : operatorAt? least token = some (symbol, operator) := hnext
    rw [plainOperators_some hnext] at h
    obtain ⟨⟨right, behind⟩, hright, hbehind⟩ := bind_eq_ok_iff.1 h
    obtain ⟨hkind, hsymbol, hstrong⟩ := operatorAt?_eq_some_iff.1 hnext
    obtain ⟨used, rfl, hderives, hfits, hlevels, hstop⟩ :=
      (ih rest (Nat.lt_succ_self _)).expression _ _ _ hright
    have hnode : Derives (before ++ token :: used)
        (binary symbol left right (left.span.cover right.span)) :=
      .binary hkind hsymbol hleft hderives
        ((atLeast_leftStrength_iff hkind hsymbol hleft.atLeast_zero).2 hends) hfits
    obtain ⟨more, rfl, hwritten, hgoal⟩ :=
      (ih behind (by simp only [List.length_cons, List.length_append]; omega)).operators depth least
        _ _ r hnode ((atLeast_iff hsymbol).2 hstrong) ((endsAt_iff hsymbol).2 hstop)
        ((nesting_binary_le_iff ..).2 ⟨hnesting, hlevels⟩) hbehind
    refine ⟨token :: (used ++ more), ?_, ?_, hgoal⟩
    · rw [List.cons_append, List.append_assoc]
    · rwa [List.append_assoc, List.cons_append] at hwritten

/-- An expression is an operand and the loop behind it. -/
theorem expression_sound (ih : ∀ rest, rest.length < tokens.length → Sound last rest)
    (depth least : ℕ) (r : Expr × List Token) (h : plainFrom last depth least tokens = .ok r) :
    Written last depth least [] tokens r := by
  rw [plainFrom_eq] at h
  obtain ⟨⟨left, behind⟩, hleft, hbehind⟩ := bind_eq_ok_iff.1 h
  obtain ⟨hbinary, hnesting, used, rfl, hderives⟩ := operand_sound ih depth _ hleft
  have hshorter : behind.length < (used ++ behind).length := by
    have := List.length_pos_iff.2 hderives.ne_nil
    rw [List.length_append]
    omega
  obtain ⟨more, rfl, hwritten⟩ := (ih behind hshorter).operators depth least used left r hderives
    (atLeast_of_not_isBinary hbinary least) (endsAt_of_not_isBinary hbinary _) hnesting hbehind
  exact ⟨used ++ more, (List.append_assoc ..).symm, hwritten⟩

end Soundness

/-- **What is read is written by the tokens that were taken.** -/
theorem sound (last : Token) (tokens : List Token) : Sound last tokens := by
  induction hlength : tokens.length using Nat.strong_induction_on generalizing tokens with
  | _ n ih =>
    have ih : ∀ rest, rest.length < tokens.length → Sound last rest := fun rest hrest =>
      ih rest.length (hlength ▸ hrest) rest rfl
    exact ⟨operand_sound ih, operators_sound ih, expression_sound ih⟩

/-! ### Whole lists -/

/-- The end of the text writes no part of a tree. -/
theorem Derives.kind_ne_finish {tokens : List Token} {e : Expr} (h : Derives tokens e) :
    ∀ token ∈ tokens, token.kind ≠ .finish := by
  induction h with
  | number hkind => simp [hkind]
  | group hopening hclosing _ ih => simpa [or_imp, forall_and, hopening, hclosing] using ih
  | unary hkind _ _ _ ih => simpa [hkind] using ih
  | binary hkind _ _ _ _ _ ihl ihr => simpa [or_imp, forall_and, hkind] using ⟨ihl, ihr⟩

/-- Tokens are read as a whole if the end comes behind an expression. -/
theorem ofTokens_append (tokens : List Token) (last : Token) (levels : ℕ) :
    ofTokens (tokens ++ [last]) levels =
      plainFrom last levels 0 (tokens ++ [last]) >>= fun r =>
        if (peek last r.2).kind = .finish then .ok r.1
        else .error (.trailing (peek last r.2).span) := by
  rw [ofTokens, List.getLast?_concat, plainFrom]
  simp only
  cases readFrom last levels 0 (tokens ++ [last]) <;> rfl

/-- **The tokens of a tree are read as it**, unless it has too many levels. -/
theorem Derives.ofTokens_eq {tokens : List Token} {e : Expr} (h : Derives tokens e) {last : Token}
    (hlast : last.kind = .finish) (levels : ℕ) : ofTokens (tokens ++ [last]) levels =
      if e.nesting ≤ levels then .ok e else .error (depthError last) := by
  have hnext : operatorAt? 0 (peek last [last]) = none :=
    operatorAt?_of_not_operator (fun symbol hkind => by cases hlast.symm.trans hkind) 0
  have hread := (h.plain_append last levels [last]).2 0 h.atLeast_zero
    (endsAt_of_atLeast h.atLeast_zero hnext)
  rw [plainOperators_none hnext] at hread
  rw [ofTokens_append, hread, within_bind, within]
  exact if_congr Iff.rfl (if_pos hlast) rfl

/-- **A list is read as a tree if it is what the tree is written with, and an end token.** -/
theorem ofTokens_eq_ok_iff {tokens : List Token} {last : Token} (hlast : last.kind = .finish)
    (hbody : ∀ token ∈ tokens, token.kind ≠ .finish) {levels : ℕ} {e : Expr} :
    ofTokens (tokens ++ [last]) levels = .ok e ↔ Derives tokens e ∧ e.nesting ≤ levels := by
  constructor
  · intro h
    rw [ofTokens_append] at h
    obtain ⟨⟨e', after⟩, hread, hend⟩ := bind_eq_ok_iff.1 h
    obtain ⟨used, hused, hderives, -, hnesting, -⟩ := (sound last _).expression _ _ _ hread
    simp only at hend
    split_ifs at hend with hfinish
    cases hend
    suffices hsame : used = tokens from ⟨hsame ▸ hderives, hnesting⟩
    cases after with
    | nil =>
      have hmem : last ∈ used := by
        rw [← List.append_nil used, ← hused]
        exact List.mem_append_right _ (List.mem_singleton_self _)
      exact absurd hlast (hderives.kind_ne_finish _ hmem)
    | cons next rest =>
      rcases List.eq_nil_or_concat rest with rfl | ⟨rest, other, rfl⟩
      · exact (List.append_inj_left' hused rfl).symm
      · rw [List.concat_eq_append, ← List.cons_append, ← List.append_assoc] at hused
        have hmem : next ∈ tokens := by
          rw [List.append_inj_left' hused rfl]
          exact List.mem_append_right _ (List.mem_cons_self ..)
        exact absurd hfinish (hbody _ hmem)
  · rintro ⟨hderives, hnesting⟩
    rw [hderives.ofTokens_eq hlast, if_pos hnesting]

end Expr
end Reckoner
