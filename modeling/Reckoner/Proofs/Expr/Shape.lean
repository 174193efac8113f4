/-
# Well-shaped trees

A tree that the parser returns has no parentheses but those of its groups, so an operand of its
operators is no operator that binds less tightly (`Expr.wellShaped`). Such a tree is determined by
the tokens that it is written with, spans aside: `Expr.yield` lists them, and `ofTokens_bijective`
says that reading and listing undo each other.

The tokens of a tree are compared by what they are and, for numbers, by how they are written
(`Token.content`). How operators and parentheses are written is not kept in a tree; tokens of a text
are written as what they are (`Scans.spelled`).
-/

import Reckoner.Proofs.Expr.Grammar
import Reckoner.Proofs.Scanning

namespace Reckoner

namespace Token

/-- How a token is written that is no number. -/
def Kind.spelling : Kind → String
  | number _ => ""
  | operator symbol => symbol
  | opening => "("
  | closing => ")"
  | finish => ""

/-- What a token is, and how a number is written. -/
def content (token : Token) : Kind × String :=
  match token.kind with
  | .number value => (.number value, token.raw)
  | kind => (kind, kind.spelling)

/-- Whether a token that is no number is written as what it is. -/
def spelled (token : Token) : Bool := token.content == (token.kind, token.raw)

/-- The token of some content, at no place. -/
def ofContent (content : Kind × String) : Token := ⟨content.1, content.2, Span.none⟩

/-- A number is kept with its spelling. -/
theorem content_of_number {token : Token} {value : Decimal} (h : token.kind = .number value) :
    token.content = (.number value, token.raw) := by rw [content, h]

/-- An operator is kept with its symbol. -/
theorem content_of_operator {token : Token} {symbol : String} (h : token.kind = .operator symbol) :
    token.content = (.operator symbol, symbol) := by rw [content, h]; rfl

/-- An opening parenthesis is kept as it is. -/
theorem content_of_opening {token : Token} (h : token.kind = .opening) :
    token.content = (.opening, "(") := by rw [content, h]; rfl

/-- A closing parenthesis is kept as it is. -/
theorem content_of_closing {token : Token} (h : token.kind = .closing) :
    token.content = (.closing, ")") := by rw [content, h]; rfl

/-- The end is kept as it is. -/
theorem content_of_finish {token : Token} (h : token.kind = .finish) :
    token.content = (.finish, "") := by rw [content, h]; rfl

/-- Moving tokens keeps what they are. -/
theorem map_content_move (k : ℤ) (tokens : List Token) :
    (tokens.map (move k)).map content = tokens.map content := by
  rw [List.map_map]
  rfl

/-- The tokens of a text are written as what they are. -/
theorem Scans.spelled {start : ℕ} {cs : List Char} {tokens : List Token}
    (h : Scans start cs tokens) : ∀ token ∈ tokens, token.spelled := by
  intro token htoken
  obtain ⟨kind, raw, place, rfl, hlexeme, -⟩ := h.exists_lexeme htoken
  rw [Token.spelled, beq_iff_eq]
  cases hlexeme with
  | power => rfl
  | symbol hsymbol =>
    obtain rfl | ⟨rfl, rfl⟩ | ⟨rfl, rfl⟩ := symbol?_cases hsymbol <;> rfl
  | literal => rfl

/-- The content of a token tells its kind. -/
theorem kind_of_content {token : Token} {kind : Kind} {raw : String}
    (h : token.content = (kind, raw)) : token.kind = kind := by
  rw [content] at h
  split at h
  · rename_i value hkind
    exact hkind.trans (Prod.mk.inj h).1
  · exact (Prod.mk.inj h).1

/-- The content of a number tells its spelling. -/
theorem raw_of_content {token : Token} {value : Decimal} {raw : String}
    (h : token.content = (.number value, raw)) : token.raw = raw :=
  (Prod.mk.inj ((content_of_number (kind_of_content h)).symm.trans h)).2

end Token

namespace Expr

/-- A tree whose spans are changed. -/
def mapSpans (f : Span → Span) : Expr → Expr
  | missing => missing
  | number value raw span => number value raw (f span)
  | group inner span => group (inner.mapSpans f) (f span)
  | unary symbol operand span => unary symbol (operand.mapSpans f) (f span)
  | binary symbol left right span => binary symbol (left.mapSpans f) (right.mapSpans f) (f span)

/-- A tree without its places: trees are equal up to spans if these are equal. -/
def unplaced (e : Expr) : Expr := e.mapSpans fun _ => Span.none

/-- Whether a tree has the shape of one that was read: no sign stands before an operator's node, and
the operands of an operator bind tightly enough for their sides. -/
def wellShaped : Expr → Bool
  | missing => false
  | number .. => true
  | group inner _ => inner.wellShaped
  | unary symbol operand _ => Operator.isSign symbol && !operand.isBinary && operand.wellShaped
  | binary symbol left right _ =>
    ((Operator.ofSymbol? symbol).any fun operator =>
      left.atLeast operator.leftStrength && right.atLeast operator.rightStrength) &&
        left.wellShaped && right.wellShaped

/-- The tokens of a tree from left to right, by their contents. -/
def yield : Expr → List (Token.Kind × String)
  | missing => []
  | number value raw _ => [(.number value, raw)]
  | group inner _ => (.opening, "(") :: (inner.yield ++ [(.closing, ")")])
  | unary symbol operand _ => (.operator symbol, symbol) :: operand.yield
  | binary symbol left right _ => left.yield ++ (.operator symbol, symbol) :: right.yield

/-! ### What does not depend on spans -/

/-- Places do not matter to whether the root has two operands. -/
@[simp] theorem isBinary_mapSpans (f : Span → Span) (e : Expr) :
    (e.mapSpans f).isBinary = e.isBinary := by
  cases e <;> rfl

/-- Places do not matter to how strongly a tree binds. -/
@[simp] theorem atLeast_mapSpans (f : Span → Span) (least : ℕ) (e : Expr) :
    (e.mapSpans f).atLeast least = e.atLeast least := by
  cases e <;> rfl

/-- Places do not matter to the levels. -/
@[simp] theorem nesting_mapSpans (f : Span → Span) (e : Expr) :
    (e.mapSpans f).nesting = e.nesting := by
  induction e with
  | missing | number => rfl
  | group _ _ ih | unary _ _ _ ih => rw [mapSpans, nesting, nesting, ih]
  | binary _ _ _ _ ihl ihr => rw [mapSpans, nesting, nesting, ihl, ihr]

/-- Trees that differ in places alone have two operands alike. -/
theorem isBinary_eq_of_unplaced_eq {d e : Expr} (h : d.unplaced = e.unplaced) :
    d.isBinary = e.isBinary := by
  rw [← isBinary_mapSpans (fun _ => Span.none) d, ← isBinary_mapSpans (fun _ => Span.none) e]
  exact congrArg isBinary h

/-- Trees that differ in places alone bind with the same strength. -/
theorem atLeast_eq_of_unplaced_eq {d e : Expr} (h : d.unplaced = e.unplaced) (least : ℕ) :
    d.atLeast least = e.atLeast least := by
  rw [← atLeast_mapSpans (fun _ => Span.none) least d,
    ← atLeast_mapSpans (fun _ => Span.none) least e]
  exact congrArg (atLeast least) h

/-- Trees that differ in places alone have the same levels. -/
theorem nesting_eq_of_unplaced_eq {d e : Expr} (h : d.unplaced = e.unplaced) :
    d.nesting = e.nesting := by
  rw [← nesting_mapSpans (fun _ => Span.none) d, ← nesting_mapSpans (fun _ => Span.none) e]
  exact congrArg nesting h

/-! ### Reading and listing -/

/-- An operation is well-shaped if its operands are and bind strongly enough. -/
theorem wellShaped_binary_iff {symbol : String} {operator : Operator}
    (h : Operator.ofSymbol? symbol = some operator) {left right : Expr} {span : Span} :
    (binary symbol left right span).wellShaped ↔ (left.atLeast operator.leftStrength ∧
      right.atLeast operator.rightStrength) ∧ left.wellShaped ∧ right.wellShaped := by
  rw [wellShaped, h, Option.any_some, Bool.and_eq_true, Bool.and_eq_true, Bool.and_eq_true,
    and_assoc]

/-- **What is written is well-shaped.** -/
theorem Derives.wellShaped {tokens : List Token} {e : Expr} (h : Derives tokens e) :
    e.wellShaped := by
  induction h with
  | number => rfl
  | group _ _ _ ih => exact ih
  | unary _ hsign _ hbinary ih => rw [Expr.wellShaped, hsign, hbinary, ih]; rfl
  | binary _ hsymbol _ _ hleft hright ihl ihr =>
    exact (wellShaped_binary_iff hsymbol).2 ⟨⟨hleft, hright⟩, ihl, ihr⟩

/-- No token is dropped, doubled or moved. -/
theorem Derives.map_content {tokens : List Token} {e : Expr} (h : Derives tokens e) :
    tokens.map Token.content = e.yield := by
  induction h with
  | number hkind => rw [List.map_singleton, Token.content_of_number hkind]; rfl
  | group hopening hclosing _ ih =>
    rw [List.map_cons, List.map_append, List.map_singleton, ih, Token.content_of_opening hopening,
      Token.content_of_closing hclosing]
    rfl
  | unary hkind _ _ _ ih => rw [List.map_cons, ih, Token.content_of_operator hkind]; rfl
  | binary hkind _ _ _ _ _ ihl ihr =>
    rw [List.map_append, List.map_cons, ihl, ihr, Token.content_of_operator hkind]; rfl

/-- **Tokens that list a well-shaped tree write it.** -/
theorem exists_derives {e : Expr} (h : e.wellShaped) {tokens : List Token}
    (htokens : tokens.map Token.content = e.yield) :
    ∃ read, Derives tokens read ∧ read.unplaced = e.unplaced := by
  induction e generalizing tokens with
  | missing => cases h
  | number value raw span =>
    obtain ⟨token, rfl, hcontent⟩ := List.map_eq_singleton_iff.1 htokens
    refine ⟨_, .number (Token.kind_of_content hcontent), ?_⟩
    rw [Token.raw_of_content hcontent]
    rfl
  | group inner span ih =>
    obtain ⟨opening, rest, rfl, hopening, hrest⟩ := List.map_eq_cons_iff.1 htokens
    obtain ⟨inside, closings, rfl, hinside, hclosings⟩ := List.map_eq_append_iff.1 hrest
    obtain ⟨closing, rfl, hclosing⟩ := List.map_eq_singleton_iff.1 hclosings
    obtain ⟨read, hread, hsame⟩ := ih h hinside
    exact ⟨_, .group (Token.kind_of_content hopening) (Token.kind_of_content hclosing) hread,
      congrArg (group · Span.none) hsame⟩
  | unary symbol operand span ih =>
    rw [wellShaped, Bool.and_eq_true, Bool.and_eq_true, Bool.not_eq_true'] at h
    obtain ⟨⟨hsign, hbinary⟩, hoperand⟩ := h
    obtain ⟨token, rest, rfl, hcontent, hrest⟩ := List.map_eq_cons_iff.1 htokens
    obtain ⟨read, hread, hsame⟩ := ih hoperand hrest
    exact ⟨_, .unary (Token.kind_of_content hcontent) hsign hread
      ((isBinary_eq_of_unplaced_eq hsame).trans hbinary),
      congrArg (unary symbol · Span.none) hsame⟩
  | binary symbol left right span ihl ihr =>
    rw [wellShaped, Bool.and_eq_true, Bool.and_eq_true, Option.any_eq_true] at h
    obtain ⟨⟨⟨operator, hsymbol, hfits⟩, hleft⟩, hright⟩ := h
    obtain ⟨hl, hr⟩ := Bool.and_eq_true_iff.1 hfits
    obtain ⟨before, rest, rfl, hbefore, hrest⟩ := List.map_eq_append_iff.1 htokens
    obtain ⟨token, after, rfl, hcontent, hafter⟩ := List.map_eq_cons_iff.1 hrest
    obtain ⟨readLeft, hreadLeft, hsameLeft⟩ := ihl hleft hbefore
    obtain ⟨readRight, hreadRight, hsameRight⟩ := ihr hright hafter
    refine ⟨_, .binary (Token.kind_of_content hcontent) hsymbol hreadLeft hreadRight
      ((atLeast_eq_of_unplaced_eq hsameLeft _).trans hl)
      ((atLeast_eq_of_unplaced_eq hsameRight _).trans hr), ?_⟩
    exact congrArg₂ (binary symbol · · Span.none) hsameLeft hsameRight

/-- Tokens write one tree at most. -/
theorem Derives.unique {tokens : List Token} {d e : Expr} (hd : Derives tokens d)
    (he : Derives tokens e) : d = e := by
  let last : Token := ⟨.finish, "", Span.none⟩
  let depth := max d.nesting e.nesting
  have hnext : operatorAt? 0 (peek last []) = none := rfl
  have hread : ∀ {x : Expr}, Derives tokens x → x.nesting ≤ depth →
      plainFrom last depth 0 tokens = .ok (x, []) := by
    intro x hx hnesting
    have := (hx.plain_append last depth []).2 0 hx.atLeast_zero
      (endsAt_of_atLeast hx.atLeast_zero hnext)
    rwa [List.append_nil, plainOperators_none hnext, within, if_pos hnesting] at this
  have := (hread hd (le_max_left _ _)).symm.trans (hread he (le_max_right _ _))
  exact (Prod.mk.inj (Except.ok.inj this)).1

/-- The list of a tree is that of tokens. -/
theorem map_content_map_ofContent (e : Expr) :
    (e.yield.map Token.ofContent).map Token.content = e.yield := by
  induction e with
  | missing => rfl
  | number => rfl
  | group inner span ih => simp only [yield, List.map_cons, List.map_append, ih]; rfl
  | unary symbol operand span ih => simp only [yield, List.map_cons, ih]; rfl
  | binary symbol left right span ihl ihr =>
    simp only [yield, List.map_cons, List.map_append, ihl, ihr]; rfl

/-- Well-shaped trees of one list are equal up to spans. -/
theorem unplaced_eq_of_yield_eq {d e : Expr} (hd : d.wellShaped) (he : e.wellShaped)
    (h : d.yield = e.yield) : d.unplaced = e.unplaced := by
  have htokens := map_content_map_ofContent d
  obtain ⟨readD, hreadD, hsameD⟩ := exists_derives hd htokens
  obtain ⟨readE, hreadE, hsameE⟩ := exists_derives he (htokens.trans h)
  rw [← hsameD, ← hsameE, hreadD.unique hreadE]

/-- **The parser is a bijection between the token lists that it accepts and well-shaped trees**, up
to the places of both and the nesting limit: what is read lists its tokens, what a well-shaped tree
lists is read as that tree wherever the tokens stand, and no two such trees list the same. -/
theorem ofTokens_bijective :
    (∀ {tokens : List Token} {last : Token} {e : Expr}, last.kind = .finish →
      (∀ token ∈ tokens, token.kind ≠ .finish) → ofTokens (tokens ++ [last]) = .ok e →
        e.wellShaped ∧ (tokens ++ [last]).map Token.content = e.yield ++ [(.finish, "")] ∧
          ((∀ token ∈ tokens ++ [last], token.spelled) →
            (tokens ++ [last]).map (fun token => (token.kind, token.raw)) =
              e.yield ++ [(.finish, "")])) ∧
      (∀ {e : Expr} {tokens : List Token}, e.wellShaped →
        tokens.map Token.content = e.yield ++ [(.finish, "")] →
          (e.nesting ≤ nestingLimit →
            ∃ read, ofTokens tokens = .ok read ∧ read.unplaced = e.unplaced) ∧
          (nestingLimit < e.nesting → ∃ span, ofTokens tokens = .error (.tooDeep span))) ∧
      ∀ {d e : Expr}, d.wellShaped → e.wellShaped → d.yield = e.yield →
        d.unplaced = e.unplaced := by
  refine ⟨fun {tokens last e} hlast hbody hread => ?_, fun {e tokens} he htokens => ?_,
    unplaced_eq_of_yield_eq⟩
  · have hderives := ((ofTokens_eq_ok_iff hlast hbody).1 hread).1
    have hlisted : (tokens ++ [last]).map Token.content = e.yield ++ [(.finish, "")] := by
      rw [List.map_append, hderives.map_content, List.map_singleton, Token.content_of_finish hlast]
    refine ⟨hderives.wellShaped, hlisted, fun hspelled => ?_⟩
    rw [← hlisted]
    exact (List.map_congr_left fun token htoken => eq_of_beq (hspelled token htoken)).symm
  · obtain ⟨body, lasts, rfl, hbody, hlasts⟩ := List.map_eq_append_iff.1 htokens
    obtain ⟨last, rfl, hlast⟩ := List.map_eq_singleton_iff.1 hlasts
    obtain ⟨read, hderives, hsame⟩ := exists_derives he hbody
    have hread := hderives.ofTokens_eq (Token.kind_of_content hlast) nestingLimit
    rw [nesting_eq_of_unplaced_eq hsame] at hread
    refine ⟨fun hnesting => ⟨read, ?_, hsame⟩, fun hnesting => ⟨⟨0, last.span.stop⟩, ?_⟩⟩
    · rw [hread, if_pos hnesting]
    · rw [hread, if_neg (Nat.not_le.2 hnesting)]; rfl

/-- The tokens of `1 - 1` at some place, and the tree at another one. -/
theorem ofTokens_bijective_difference :
    let e := binary "-" (number .one "1" ⟨0, 1⟩) (number .one "1" ⟨4, 5⟩) ⟨0, 5⟩
    let tokens : List Token := [⟨.number .one, "1", ⟨7, 8⟩⟩, ⟨.operator "-", "-", ⟨8, 9⟩⟩,
      ⟨.number .one, "1", ⟨9, 10⟩⟩]
    let last : Token := ⟨.finish, "", ⟨10, 10⟩⟩
    ∃ read, ofTokens (tokens ++ [last]) = .ok read ∧ read.unplaced = e.unplaced ∧
      read.yield ++ [(.finish, "")] =
        (tokens ++ [last]).map fun token => (token.kind, token.raw) := by
  intro e tokens last
  obtain ⟨hlisted, hread, hsame⟩ := ofTokens_bijective
  obtain ⟨read, hok, -⟩ := (hread (show e.wellShaped by decide) (show
    (tokens ++ [last]).map Token.content = e.yield ++ [(.finish, "")] by decide)).1 (by decide)
  obtain ⟨hshaped, hcontents, hraw⟩ := hlisted (show last.kind = .finish from rfl) (by decide) hok
  refine ⟨read, hok, hsame hshaped (show e.wellShaped by decide) ?_, (hraw (by decide)).symm⟩
  exact List.append_cancel_right (hcontents.symm.trans (by decide))

end Expr
end Reckoner
