/-
# Trees planted in parentheses

A number that stands alone in parentheses is a place where any other tree may stand: the parentheses
hold it together, so nothing around them is read differently (`Derives.plant`). The numbers in whose
place other trees are put are told apart by where they start.

In the list of the tokens such a number is replaced by the list of its tree (`Token.planted`). That
the number is alone in its parentheses shows in the tokens next to it (`Token.Alone`).
-/

import Reckoner.Proofs.Expr.Shape

namespace Reckoner

namespace Token

variable (f : ℤ → Option Expr)

/-- The tree that is put in place of a number. -/
def slot? (token : Token) : Option Expr :=
  match token.kind with
  | .number _ => f token.span.start
  | _ => none

/-- What is listed in place of a token. -/
def planted (token : Token) : List (Kind × String) :=
  ((token.slot? f).map Expr.yield).getD [token.content]

/-- Next to a number in whose place a tree is put, there are only the parentheses around it. -/
def Alone (tokens : List Token) : Prop :=
  tokens.IsChain fun a b =>
    ((a.slot? f).isSome → b.kind = .closing) ∧ ((b.slot? f).isSome → a.kind = .opening)

variable {f}

/-- What is planted at a number is what there is for its place. -/
theorem slot?_of_number {token : Token} {value : Decimal} (h : token.kind = .number value) :
    token.slot? f = f token.span.start := by rw [slot?, h]

/-- Nothing is planted at an operator. -/
theorem slot?_of_operator {token : Token} {symbol : String} (h : token.kind = .operator symbol) :
    token.slot? f = none := by rw [slot?, h]

/-- Nothing is planted at an opening parenthesis. -/
theorem slot?_of_opening {token : Token} (h : token.kind = .opening) : token.slot? f = none := by
  rw [slot?, h]

/-- Nothing is planted at a closing parenthesis. -/
theorem slot?_of_closing {token : Token} (h : token.kind = .closing) : token.slot? f = none := by
  rw [slot?, h]

/-- Nothing is planted at a place for which there is nothing. -/
theorem slot?_eq_none {token : Token} (h : f token.span.start = none) : token.slot? f = none := by
  rw [slot?, h]
  split <;> rfl

/-- A token at which nothing is planted stays what it is. -/
theorem planted_of_none {token : Token} (h : token.slot? f = none) :
    token.planted f = [token.content] := by rw [planted, h]; rfl

/-- A token at which a tree is planted becomes what the tree writes. -/
theorem planted_of_some {token : Token} {d : Expr} (h : token.slot? f = some d) :
    token.planted f = d.yield := by rw [planted, h]; rfl

/-- An operator stays what it is. -/
theorem planted_of_operator {token : Token} {symbol : String} (h : token.kind = .operator symbol) :
    token.planted f = [(.operator symbol, symbol)] := by
  rw [planted_of_none (slot?_of_operator h), content_of_operator h]

/-- An opening parenthesis stays what it is. -/
theorem planted_of_opening {token : Token} (h : token.kind = .opening) :
    token.planted f = [(.opening, "(")] := by
  rw [planted_of_none (slot?_of_opening h), content_of_opening h]

/-- A closing parenthesis stays what it is. -/
theorem planted_of_closing {token : Token} (h : token.kind = .closing) :
    token.planted f = [(.closing, ")")] := by
  rw [planted_of_none (slot?_of_closing h), content_of_closing h]

/-- Tokens at which nothing is planted stay what they are. -/
theorem flatMap_planted {tokens : List Token} (h : ∀ token ∈ tokens, token.slot? f = none) :
    tokens.flatMap (planted f) = tokens.map content := by
  induction tokens with
  | nil => rfl
  | cons token tokens ih =>
    obtain ⟨htoken, htokens⟩ := List.forall_mem_cons.1 h
    rw [List.flatMap_cons, planted_of_none htoken, ih htokens]
    rfl

/-- Behind anything but an opening parenthesis no tree is put. -/
theorem Alone.slot?_behind {a b : Token} {tokens : List Token} (h : Alone f (a :: b :: tokens))
    (ha : a.kind ≠ .opening) : b.slot? f = none := by
  by_contra hb
  exact ha ((List.isChain_cons_cons.1 h).1.2 (Option.isSome_iff_ne_none.2 hb))

/-- Before anything but a closing parenthesis no tree is put. -/
theorem Alone.slot?_before {a b : Token} {tokens : List Token} (h : Alone f (a :: b :: tokens))
    (hb : b.kind ≠ .closing) : a.slot? f = none := by
  by_contra ha
  exact hb ((List.isChain_cons_cons.1 h).1.1 (Option.isSome_iff_ne_none.2 ha))

/-- Where no tree is put, nothing is next to one. -/
theorem alone_of_none {tokens : List Token} (h : ∀ token ∈ tokens, token.slot? f = none) :
    Alone f tokens := by
  induction tokens with
  | nil => exact .nil
  | cons token tokens ih =>
    obtain ⟨htoken, htokens⟩ := List.forall_mem_cons.1 h
    refine List.isChain_cons.2 ⟨fun next hnext => ?_, ih htokens⟩
    rw [htoken, htokens next (List.mem_of_head? hnext)]
    exact ⟨nofun, nofun⟩

/-- One token more in parentheses. -/
theorem Alone.enclose {before after : List Token} {opening closing : Token}
    (hbefore : ∀ token ∈ before, token.slot? f = none) (hopening : opening.kind = .opening)
    (hclosing : closing.kind = .closing) (hafter : Alone f after)
    (hhead : ∀ token ∈ after.head?, token.slot? f = none) (z : Token) :
    Alone f (before ++ opening :: z :: closing :: after) := by
  have hopen := slot?_of_opening (f := f) hopening
  have hclose := slot?_of_closing (f := f) hclosing
  induction before with
  | nil =>
    refine List.isChain_cons_cons.2 ⟨⟨by simp [hopen], fun _ => hopening⟩,
      List.isChain_cons_cons.2 ⟨⟨fun _ => hclosing, by simp [hclose]⟩,
        List.isChain_cons.2 ⟨fun next hnext => ?_, hafter⟩⟩⟩
    simp [hclose, hhead next hnext]
  | cons token before ih =>
    obtain ⟨htoken, hrest⟩ := List.forall_mem_cons.1 hbefore
    refine List.isChain_cons.2 ⟨fun next hnext => ?_, ih hrest⟩
    have hnone : next.slot? f = none := by
      cases before with
      | nil => exact Option.some.inj hnext ▸ hopen
      | cons b before => exact Option.some.inj hnext ▸ hrest b List.mem_cons_self
    simp [htoken, hnone]

end Token

namespace Expr

variable {f : ℤ → Option Expr}

/-- A tree with other trees in place of numbers that are alone in parentheses: those that `f` has
for where the numbers start. -/
def plant (f : ℤ → Option Expr) : Expr → Expr
  | missing => missing
  | number value raw span => number value raw span
  | group (number value raw place) span =>
    group ((f place.start).getD (number value raw place)) span
  | group inner span => group (inner.plant f) span
  | unary symbol operand span => unary symbol (operand.plant f) span
  | binary symbol left right span => binary symbol (left.plant f) (right.plant f) span

/-- Whether a tree is a number in whose place another one is put. -/
def isSlot (f : ℤ → Option Expr) : Expr → Bool
  | number _ _ span => (f span.start).isSome
  | _ => false

/-- Planting trees keeps whether the root has two operands. -/
theorem isBinary_plant (e : Expr) : (e.plant f).isBinary = e.isBinary := by
  cases e with
  | group inner => cases inner <;> rfl
  | _ => rfl

/-- Planting trees keeps how strongly a tree binds. -/
theorem atLeast_plant (e : Expr) (least : ℕ) : (e.plant f).atLeast least = e.atLeast least := by
  cases e with
  | group inner => cases inner <;> rfl
  | _ => rfl

/-- A tree is replaced only if it has one token, and that is. -/
theorem Derives.isSlot_eq_false {tokens : List Token} {e : Expr} (h : Derives tokens e)
    (hslot : ∀ token, tokens = [token] → token.slot? f = none) : e.isSlot f = false := by
  cases h with
  | @number token value hkind =>
    have hnone := hslot token rfl
    rw [Token.slot?_of_number hkind] at hnone
    rw [isSlot, hnone]
    rfl
  | _ => rfl

/-- **Trees may be put in place of numbers that are alone in parentheses.** The list of the tree is
then that of the tokens with the lists of those trees in it. The induction is on the tree: a number
whose neighbour is a sign or an operator is not alone, so the operands of these are replaced inside
only, and keep how tightly they bind. -/
theorem Derives.plant (hf : ∀ k d, f k = some d → d.wellShaped) {tokens : List Token} {e : Expr}
    (h : Derives tokens e) (halone : Token.Alone f tokens) (hslot : e.isSlot f = false) :
    (e.plant f).wellShaped ∧ (e.plant f).yield = tokens.flatMap (Token.planted f) := by
  induction h with
  | @number token value hkind =>
    rw [isSlot, Option.isSome_eq_false_iff, Option.isNone_iff_eq_none] at hslot
    refine ⟨rfl, ?_⟩
    rw [Expr.plant, List.flatMap_singleton,
      Token.planted_of_none ((Token.slot?_of_number hkind).trans hslot),
      Token.content_of_number hkind]
    rfl
  | @group opening closing tokens inner hopening hclosing hinner ih =>
    have hlist {d : Expr} (hd : d.yield = tokens.flatMap (Token.planted f)) (span : Span) :
        (Expr.group d span).yield =
          (opening :: (tokens ++ [closing])).flatMap (Token.planted f) := by
      rw [yield, hd, List.flatMap_cons, List.flatMap_append, List.flatMap_singleton,
        Token.planted_of_opening hopening, Token.planted_of_closing hclosing]
      rfl
    have halone : Token.Alone f tokens := halone.tail.left_of_append
    cases hinner with
    | @number token value hkind =>
      rw [Expr.plant]
      cases hd : f token.span.start with
      | none =>
        obtain ⟨hshaped, hyield⟩ := ih halone (by rw [isSlot, hd]; rfl)
        exact ⟨hshaped, hlist hyield _⟩
      | some d =>
        refine ⟨hf _ d hd, @hlist d ?_ _⟩
        rw [List.flatMap_singleton,
          Token.planted_of_some ((Token.slot?_of_number hkind).trans hd)]
    | _ =>
      obtain ⟨hshaped, hyield⟩ := ih halone rfl
      exact ⟨hshaped, hlist hyield _⟩
  | @unary token symbol tokens operand hkind hsign hoperand hbinary ih =>
    have hopening : token.kind ≠ .opening := fun h => by cases hkind.symm.trans h
    have hnext : operand.isSlot f = false :=
      hoperand.isSlot_eq_false fun z hz => by subst hz; exact halone.slot?_behind hopening
    obtain ⟨hshaped, hyield⟩ := ih halone.tail hnext
    refine ⟨?_, ?_⟩
    · rw [Expr.plant, Expr.wellShaped, hsign, isBinary_plant, hbinary, hshaped]
      rfl
    · rw [Expr.plant, yield, hyield, List.flatMap_cons, Token.planted_of_operator hkind]
      rfl
  | @binary token symbol operator before after left right hkind hsymbol hl hr hleft hright ihl
      ihr =>
    have hbehind : Token.Alone f (token :: after) := halone.right_of_append
    have hopening : token.kind ≠ .opening := fun h => by cases hkind.symm.trans h
    have hclosing : token.kind ≠ .closing := fun h => by cases hkind.symm.trans h
    have hleftSlot : left.isSlot f = false :=
      hl.isSlot_eq_false fun z hz => by subst hz; exact halone.slot?_before hclosing
    have hrightSlot : right.isSlot f = false :=
      hr.isSlot_eq_false fun z hz => by subst hz; exact hbehind.slot?_behind hopening
    obtain ⟨hshapedLeft, hyieldLeft⟩ := ihl halone.left_of_append hleftSlot
    obtain ⟨hshapedRight, hyieldRight⟩ := ihr hbehind.tail hrightSlot
    refine ⟨?_, ?_⟩
    · exact (wellShaped_binary_iff hsymbol).2 ⟨⟨(atLeast_plant left _).trans hleft,
        (atLeast_plant right _).trans hright⟩, hshapedLeft, hshapedRight⟩
    · rw [Expr.plant, yield, hyieldLeft, hyieldRight, List.flatMap_append, List.flatMap_cons,
        Token.planted_of_operator hkind]
      rfl

end Expr
end Reckoner
