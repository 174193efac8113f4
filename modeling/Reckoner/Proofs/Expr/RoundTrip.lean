/-
# Printing and reading back

The text of a tree is read as a tree of the same shape, with a group wherever the printer puts
parentheses (`Expr.regroup`) and with numbers as they are displayed; and that tree has the same text
(`print_roundTrip`). A text is followed from the inside: `Expr.Renders R text e` says that the text
is read as a tree that matches `e` and is printed as the text again, and each way to build a text
out of others keeps that. How the numbers that are read relate to those of `e` is left open (`R`).

The printer does not put a power that is the base of another power into parentheses, though powers
group to the right. No tree that is read has such a base (`Derives.unstacked`), and only trees
without one come back.
-/

import Reckoner.Proofs.Decimal.Display
import Reckoner.Proofs.Expr.Excerpt
import Reckoner.Proofs.Expr.Matching
import Reckoner.Proofs.Expr.Printing

namespace Reckoner

namespace Operator

/-- Whether a symbol is one of the powers. -/
def isPower (symbol : String) : Bool := symbol == "^" || symbol == "**"

/-- Only powers distinguish how tightly a left operand must bind from how tightly they bind. -/
theorem leftStrength_le_iff_not_isPower {a b : Operator} {s t : String}
    (ha : ofSymbol? s = some a) (hb : ofSymbol? t = some b) :
    a.leftStrength ≤ b.strength ↔ a.strength ≤ b.strength ∧ (isPower s && isPower t) = false := by
  have key : ∀ x ∈ table, ∀ y ∈ table, x.2.leftStrength ≤ y.2.strength ↔
      x.2.strength ≤ y.2.strength ∧ (isPower x.1 && isPower y.1) = false := by decide
  exact key _ (mem_table_of_ofSymbol? ha) _ (mem_table_of_ofSymbol? hb)

/-- The symbol of an operator is a lexeme. -/
theorem lexeme_of_ofSymbol? {symbol : String} {operator : Operator}
    (h : ofSymbol? symbol = some operator) : Token.Lexeme (.operator symbol) symbol.toList := by
  have hmem := List.mem_map_of_mem (f := Prod.fst) (mem_table_of_ofSymbol? h)
  simp only [table, List.map_cons, List.map_nil, List.mem_cons, List.not_mem_nil, or_false] at hmem
  obtain rfl | rfl | rfl | rfl | rfl | rfl | rfl := hmem
  · exact .symbol rfl
  · exact .power
  · exact .symbol rfl
  · exact .symbol rfl
  · exact .symbol rfl
  · exact .symbol rfl
  · exact .symbol rfl

end Operator

namespace Decimal

/-- A number that is not too large is read back as a decimal of the range. -/
theorem inRange_reread {x : Decimal} (hsign : 0 ≤ x.toRat) (hlt : x.toRat < 10 ^ wholeDigits) :
    x.reread.inRange :=
  inRange_shown (by rwa [abs_of_nonneg hsign]) (show displayPlaces ≤ 999999 by decide) false

/-- **The text of a number is read as the decimal that it writes.** -/
theorem lexeme_reread {x : Decimal} (hsign : 0 ≤ x.toRat) (hrange : x.reread.inRange) :
    Token.Lexeme (.number x.reread) x.display.toList := by
  let n := roundedUnits displayPlaces x.toRat
  let whole := Nat.toDigits 10 (n / 10 ^ displayPlaces)
  let fraction := shownFraction displayPlaces n
  have hwhole : ∀ c ∈ whole, c.isDigit := fun c hc =>
    Nat.isDigit_of_mem_toDigits (by decide) (by decide) hc
  have hfraction : ∀ c ∈ fraction, c.isDigit := fun c hc => isDigit_of_mem_shownFraction hc
  have htext : x.display.toList = Token.pointed whole fraction := by
    rw [display_eq, shown, decide_eq_false (not_lt.2 hsign), Bool.false_and, assemble,
      String.toList_ofList]
    rfl
  exact htext ▸ Token.lexeme_pointed Nat.toDigits_ne_nil hwhole hfraction rfl hrange

end Decimal

namespace Expr

/-! ### Shapes -/

/-- Trees of one shape, spans and spellings aside, where the numbers of the second are the images of
those of the first. -/
inductive Alike (f : ℚ → ℚ) : Expr → Expr → Prop
  | number {v w : Decimal} {raw raw' : String} {span span' : Span} : w.toRat = f v.toRat →
      Alike f (number v raw span) (number w raw' span')
  | group {d e : Expr} {span span' : Span} : Alike f d e → Alike f (group d span) (group e span')
  | unary {symbol : String} {d e : Expr} {span span' : Span} : Alike f d e →
      Alike f (unary symbol d span) (unary symbol e span')
  | binary {symbol : String} {l r l' r' : Expr} {span span' : Span} : Alike f l l' →
      Alike f r r' → Alike f (binary symbol l r span) (binary symbol l' r' span')

/-- Trees that match by their numbers are alike. -/
theorem Matches.alike {f : ℚ → ℚ} {d e : Expr}
    (h : Matches (fun v w => w.toRat = f v.toRat) d e) : Alike f d e := by
  induction h with
  | number hread => exact .number hread
  | group _ ih => exact .group ih
  | unary _ ih => exact .unary ih
  | binary _ _ ihl ihr => exact .binary ihl ihr

/-- Trees that are alike have the same levels. -/
theorem Alike.nesting_eq {f : ℚ → ℚ} {d e : Expr} (h : Alike f d e) : e.nesting = d.nesting := by
  induction h with
  | number => rfl
  | group _ ih | unary _ ih => rw [nesting, nesting, ih]
  | binary _ _ ihl ihr => rw [nesting, nesting, ihl, ihr]

/-- A tree, in a group if that is needed. -/
def enclose (needed : Bool) (e : Expr) : Expr := if needed then group e e.span else e

/-- A tree with groups where its text has parentheses: around an operand of a sign that is itself a
sign or an operator, around a left operand of less strength than its operator, and around a right
operand of less strength or, under an operator that groups to the left, of the same. -/
def regroup : Expr → Expr
  | missing => missing
  | number value raw span => number value raw span
  | group inner span => group inner.regroup span
  | unary symbol operand span =>
    unary symbol (enclose operand.needsParentheses operand.regroup) span
  | binary symbol left right span =>
    let weaker := fun (least : Operator → ℕ) (operand : Expr) =>
      (Operator.ofSymbol? symbol).any fun operator => !operand.atLeast (least operator)
    binary symbol (enclose (weaker Operator.strength left) left.regroup)
      (enclose (weaker Operator.rightStrength right) right.regroup) span

/-- A tree of numbers that are not negative, signs, groups and known operators. -/
def Printable : Expr → Prop
  | missing => False
  | number value _ _ => 0 ≤ value.toRat ∧ value.toRat < 10 ^ Decimal.wholeDigits
  | group inner _ => inner.Printable
  | unary symbol operand _ => Operator.isSign symbol ∧ operand.Printable
  | binary symbol left right _ =>
    (∃ operator, Operator.ofSymbol? symbol = some operator) ∧ left.Printable ∧ right.Printable

/-- Whether no node of a tree is missing and all its signs and operators are known. -/
def known : Expr → Bool
  | missing => false
  | number .. => true
  | group inner _ => inner.known
  | unary symbol operand _ => Operator.isSign symbol && operand.known
  | binary symbol left right _ =>
    (Operator.ofSymbol? symbol).isSome && left.known && right.known

/-- An operation is known if its symbol and its operands are. -/
theorem known_binary_iff {symbol : String} {left right : Expr} {span : Span} :
    (binary symbol left right span).known ↔
      (∃ operator, Operator.ofSymbol? symbol = some operator) ∧ left.known ∧ right.known := by
  rw [known, Bool.and_eq_true, Bool.and_eq_true, Option.isSome_iff_exists, and_assoc]

/-- Whether a tree is a power. -/
def isPower : Expr → Bool
  | binary symbol .. => Operator.isPower symbol
  | _ => false

/-- Whether no power in a tree is the base of another one without a group around it. -/
def unstacked : Expr → Bool
  | missing | number .. => true
  | group inner _ => inner.unstacked
  | unary _ operand _ => operand.unstacked
  | binary symbol left right _ =>
    !(Operator.isPower symbol && left.isPower) && left.unstacked && right.unstacked

/-- A left operand may be as strong as its operator, unless both are powers. -/
theorem atLeast_leftStrength_iff_not_isPower {symbol : String} {operator : Operator}
    (h : Operator.ofSymbol? symbol = some operator) (e : Expr) : e.atLeast operator.leftStrength ↔
      e.atLeast operator.strength ∧ (Operator.isPower symbol && e.isPower) = false := by
  cases e with
  | binary child left right span =>
    cases hchild : Operator.ofSymbol? child with
    | none => simp [atLeast, hchild]
    | some inner =>
      rw [atLeast_iff hchild, atLeast_iff hchild]
      exact Operator.leftStrength_le_iff_not_isPower h hchild
  | _ => simp [atLeast, isPower]

/-- **No power is the base of a power in a tree that is read.** -/
theorem Derives.unstacked {tokens : List Token} {e : Expr} (h : Derives tokens e) :
    e.unstacked := by
  induction h with
  | number => rfl
  | group _ _ _ ih | unary _ _ _ _ ih => exact ih
  | binary _ hsymbol _ _ hleft _ ihl ihr =>
    rw [Expr.unstacked, ((atLeast_leftStrength_iff_not_isPower hsymbol _).1 hleft).2, ihl, ihr]
    rfl

/-- Groups do not change what stands on the top of a tree. -/
theorem atLeast_regroup (e : Expr) (least : ℕ) : e.regroup.atLeast least = e.atLeast least := by
  cases e <;> rfl

/-- Grouping keeps whether a tree needs parentheses. -/
theorem needsParentheses_regroup (e : Expr) : e.regroup.needsParentheses = e.needsParentheses := by
  cases e <;> rfl

/-- Operands are grouped by their strength. -/
theorem regroup_binary {symbol : String} {operator : Operator}
    (h : Operator.ofSymbol? symbol = some operator) (left right : Expr) (span : Span) :
    (binary symbol left right span).regroup =
      binary symbol (enclose (!left.atLeast operator.strength) left.regroup)
        (enclose (!right.atLeast operator.rightStrength) right.regroup) span := by
  rw [regroup, h]
  rfl

/-- Where a tree goes into a group unless it fits its place, what comes of it fits. -/
theorem atLeast_enclose {e : Expr} {least n : ℕ} (h : e.atLeast least → e.atLeast n) :
    (enclose (!e.atLeast least) e.regroup).atLeast n := by
  cases hleast : e.atLeast least with
  | true => exact (atLeast_regroup e n).trans (h hleast)
  | false => rfl

/-! ### Texts and what they are read as -/

/-- The text is read as a tree like `d`, which is printed as the text. -/
def Shows (text : String) (d : Expr) : Prop :=
  ∀ start, ∃ tokens e, Token.Scans start text.toList tokens ∧ Derives tokens e ∧
    Alike (roundHalfUp Decimal.displayPlaces) d e ∧ e.plainPrint = .ok text

/-- The text is read as a tree that matches `d` and is printed as the text. -/
def Renders (R : Decimal → Decimal → Prop) (text : String) (d : Expr) : Prop :=
  ∀ start, ∃ tokens e, Token.Scans start text.toList tokens ∧ Derives tokens e ∧ Matches R d e ∧
    e.plainPrint = .ok text

section

variable {R : Decimal → Decimal → Prop} {text : String} {d : Expr}

/-- A number that is read from a text and displayed as it. -/
theorem renders_number {x y : Decimal} (hlexeme : Token.Lexeme (.number y) x.display.toList)
    (hdisplay : y.display = x.display) (hR : R x y) (raw : String) (span : Span) :
    Renders R x.display (number x raw span) := fun start =>
  ⟨_, _, hlexeme.scans start, .number rfl, .number hR, congrArg _ hdisplay⟩

/-- A text in parentheses is a group. -/
theorem Renders.group (h : Renders R text d) (span : Span) :
    Renders R (inParentheses text) (.group d span) := by
  intro start
  obtain ⟨tokens, e, hscans, hderives, hmatches, hprint⟩ := h (start + 1)
  have hlexeme : Token.Lexeme .closing [')'] := .symbol rfl
  have hbody := hscans.append (hlexeme.scans _) fun raw => Token.ends_closing raw []
  have hopening : (Token.place .opening ['('] start).kind = .opening := rfl
  have hclosing :
      (Token.place .closing [')'] (start + 1 + text.toList.length)).kind = .closing := rfl
  refine ⟨_, _, ?_, .group hopening hclosing hderives, .group hmatches, ?_⟩
  · rw [inParentheses, String.toList_append, String.toList_append]
    exact hbody.symbol rfl (by decide)
  · rw [plainPrint, hprint]
    rfl

/-- A text in parentheses renders the tree in a group. -/
theorem Renders.enclose (h : Renders R text d) (needed : Bool) :
    Renders R (wrap needed text) (enclose needed d) := by
  cases needed with
  | true => exact h.group _
  | false => exact h

/-- A sign in front of the text of a number or a group is a signed operand. -/
theorem Renders.unary {symbol : String} (hsign : Operator.isSign symbol)
    (hd : d.needsParentheses = false) (h : Renders R text d) (span : Span) :
    Renders R (symbol ++ text) (.unary symbol d span) := by
  intro start
  obtain ⟨tokens, e, hscans, hderives, hmatches, hprint⟩ := h (start + 1)
  have hneeds : e.needsParentheses = false := hmatches.needsParentheses_eq.trans hd
  have hbinary : e.isBinary = false := by
    cases e with
    | binary => cases hneeds
    | _ => rfl
  have hscans : ∃ token : Token, token.kind = .operator symbol ∧
      Token.Scans start (symbol ++ text).toList (token :: tokens) := by
    rw [String.toList_append]
    rw [Operator.isSign, Bool.or_eq_true, beq_iff_eq, beq_iff_eq] at hsign
    rcases hsign with rfl | rfl
    · exact ⟨_, rfl, hscans.symbol (c := '+') rfl (by decide)⟩
    · exact ⟨_, rfl, hscans.symbol (c := '-') rfl (by decide)⟩
  obtain ⟨token, hkind, hscans⟩ := hscans
  refine ⟨_, _, hscans, .unary hkind hsign hderives hbinary, .unary hmatches, ?_⟩
  rw [plainPrint, hprint, hneeds]
  rfl

end

/-- An operator is too weak for a place if it binds less tightly than it must. -/
theorem not_atLeast_binary {child : String} {inner : Operator}
    (h : Operator.ofSymbol? child = some inner) (left right : Expr) (span : Span) (least : ℕ) :
    (!(binary child left right span).atLeast least) = decide (inner.strength < least) := by
  rw [atLeast, h, Option.any_some, ← decide_not]
  simp only [Nat.not_le]

/-- No parentheses are put around a left operand that binds tightly enough. -/
theorem wrapsLeft_eq {symbol : String} {operator : Operator}
    (h : Operator.ofSymbol? symbol = some operator) {e : Expr} (he : e.atLeast 0) :
    wrapsLeft symbol e = .ok (!e.atLeast operator.strength) := by
  cases e with
  | binary child left right span =>
    rw [atLeast, Option.any_eq_true] at he
    obtain ⟨inner, hinner, -⟩ := he
    rw [wrapsLeft, operatorOf, operatorOf, hinner, h, not_atLeast_binary hinner]
    rfl
  | _ => rfl

/-- A right operand is wrapped if it binds too weakly. -/
theorem wrapsRight_eq {symbol : String} {operator : Operator}
    (h : Operator.ofSymbol? symbol = some operator) {e : Expr} (he : e.atLeast 0) :
    wrapsRight symbol e = .ok (!e.atLeast operator.rightStrength) := by
  cases e with
  | binary child left right span =>
    rw [atLeast, Option.any_eq_true] at he
    obtain ⟨inner, hinner, -⟩ := he
    rw [wrapsRight, operatorOf, operatorOf, h, hinner, not_atLeast_binary hinner]
    rfl
  | _ => rfl

/-- The text of an operator's node has parentheses around the operands that are too weak. -/
theorem plainPrint_binary {symbol : String} {operator : Operator}
    (hsymbol : Operator.ofSymbol? symbol = some operator) {left right : Expr}
    (hl : left.atLeast 0) (hr : right.atLeast 0) {before after : String}
    (hbefore : left.plainPrint = .ok before) (hafter : right.plainPrint = .ok after)
    (span : Span) : (binary symbol left right span).plainPrint =
      .ok (wrap (!left.atLeast operator.strength) before ++ " " ++ symbol ++ " " ++
        wrap (!right.atLeast operator.rightStrength) after) := by
  rw [plainPrint, hbefore, hafter, wrapsLeft_eq hsymbol hl, wrapsRight_eq hsymbol hr]
  rfl

/-- A well-shaped tree has a text. -/
theorem exists_plainPrint {e : Expr} (h : e.wellShaped) : ∃ text, e.plainPrint = .ok text := by
  induction e with
  | missing => cases h
  | number value raw span => exact ⟨_, rfl⟩
  | group inner span ih =>
    obtain ⟨text, htext⟩ := ih h
    exact ⟨_, by rw [plainPrint, htext]; rfl⟩
  | unary symbol operand span ih =>
    obtain ⟨text, htext⟩ := ih (Bool.and_eq_true_iff.1 h).2
    exact ⟨_, by rw [plainPrint, htext]; rfl⟩
  | binary symbol left right span ihl ihr =>
    cases hsymbol : Operator.ofSymbol? symbol with
    | none => simp [wellShaped, hsymbol] at h
    | some operator =>
      obtain ⟨⟨hl, hr⟩, hleft, hright⟩ := (wellShaped_binary_iff hsymbol).1 h
      obtain ⟨before, hbefore⟩ := ihl hleft
      obtain ⟨after, hafter⟩ := ihr hright
      exact ⟨_, plainPrint_binary hsymbol (atLeast_mono (Nat.zero_le _) hl)
        (atLeast_mono (Nat.zero_le _) hr) hbefore hafter span⟩

/-- The texts of fitting operands around an operator between blanks are its node. -/
theorem Renders.binary {R : Decimal → Decimal → Prop} {symbol : String} {operator : Operator}
    (hsymbol : Operator.ofSymbol? symbol = some operator) {before after : String} {l r : Expr}
    (hl : Renders R before l) (hr : Renders R after r) (hleft : l.atLeast operator.leftStrength)
    (hright : r.atLeast operator.rightStrength) (span : Span) :
    Renders R (before ++ " " ++ symbol ++ " " ++ after) (.binary symbol l r span) := by
  intro start
  obtain ⟨tokensL, readL, hscansL, hderivesL, hmatchesL, hprintL⟩ := hl start
  obtain ⟨tokensR, readR, hscansR, hderivesR, hmatchesR, hprintR⟩ :=
    hr (start + before.toList.length + 1 + symbol.toList.length + 1)
  have hleft : readL.atLeast operator.leftStrength := (hmatchesL.atLeast_eq _).trans hleft
  have hright : readR.atLeast operator.rightStrength := (hmatchesR.atLeast_eq _).trans hright
  have hfits := atLeast_mono operator.strength_le_leftStrength hleft
  have hrest := Token.Scans.blank (c := ' ') (by decide) (Token.Scans.token
    (Operator.lexeme_of_ofSymbol? hsymbol) (Token.ends_blank symbol.toList after.toList)
    (.blank (by decide) hscansR))
  have hkind : (Token.place (.operator symbol) symbol.toList
      (start + before.toList.length + 1)).kind = .operator symbol := rfl
  refine ⟨_, _, ?_, .binary hkind hsymbol hderivesL hderivesR hleft hright,
    .binary hmatchesL hmatchesR, ?_⟩
  · have := hscansL.append hrest fun raw => Token.ends_blank raw _
    have hblank : " ".toList = [' '] := rfl
    simpa only [String.toList_append, List.append_assoc, hblank, List.cons_append,
      List.nil_append] using this
  · rw [plainPrint_binary hsymbol hderivesL.atLeast_zero hderivesR.atLeast_zero hprintL hprintR,
      hfits, hright]
    rfl

/-- A known tree binds strongly enough for a place that asks for nothing. -/
theorem atLeast_zero_of_known {e : Expr} (h : e.known) : e.atLeast 0 := by
  cases e with
  | binary symbol left right span =>
    obtain ⟨⟨operator, hsymbol⟩, -⟩ := known_binary_iff.1 h
    exact (atLeast_iff hsymbol).2 (Nat.zero_le _)
  | _ => rfl

/-- **The text of a tree is read as the tree with groups for its parentheses**, if the texts of its
numbers are read as numbers. -/
theorem exists_renders {R : Decimal → Decimal → Prop} {e : Expr} (h : e.known)
    (hstack : e.unstacked) (hnumbers : ∀ x ∈ e.numbers, ∃ y,
      Token.Lexeme (.number y) x.display.toList ∧ y.display = x.display ∧ R x y) :
    ∃ text, e.plainPrint = .ok text ∧ Renders R text e.regroup := by
  induction e with
  | missing => cases h
  | number value raw span =>
    obtain ⟨y, hlexeme, hdisplay, hR⟩ := hnumbers value (List.mem_singleton_self _)
    exact ⟨_, rfl, renders_number hlexeme hdisplay hR raw span⟩
  | group inner span ih =>
    obtain ⟨text, hprint, hrenders⟩ := ih h hstack hnumbers
    refine ⟨inParentheses text, ?_, hrenders.group span⟩
    rw [plainPrint, hprint]
    rfl
  | unary symbol operand span ih =>
    obtain ⟨hsign, hoperand⟩ := Bool.and_eq_true_iff.1 h
    obtain ⟨text, hprint, hrenders⟩ := ih hoperand hstack hnumbers
    refine ⟨symbol ++ wrap operand.needsParentheses text, ?_,
      (hrenders.enclose operand.needsParentheses).unary hsign ?_ span⟩
    · rw [plainPrint, hprint]
      rfl
    · cases hneeds : operand.needsParentheses with
      | true => rfl
      | false => exact (needsParentheses_regroup operand).trans hneeds
  | binary symbol left right span ihl ihr =>
    obtain ⟨⟨operator, hsymbol⟩, hleft, hright⟩ := known_binary_iff.1 h
    rw [unstacked, Bool.and_eq_true, Bool.and_eq_true, Bool.not_eq_true'] at hstack
    obtain ⟨⟨hbase, hstackL⟩, hstackR⟩ := hstack
    obtain ⟨before, hprintL, hrendersL⟩ := ihl hleft hstackL fun x hx =>
      hnumbers x (List.mem_append_left _ hx)
    obtain ⟨after, hprintR, hrendersR⟩ := ihr hright hstackR fun x hx =>
      hnumbers x (List.mem_append_right _ hx)
    have hrenders := (hrendersL.enclose (!left.atLeast operator.strength)).binary hsymbol
      (hrendersR.enclose (!right.atLeast operator.rightStrength))
      (atLeast_enclose fun hfits =>
        (atLeast_leftStrength_iff_not_isPower hsymbol left).2 ⟨hfits, hbase⟩)
      (atLeast_enclose id) span
    rw [← regroup_binary hsymbol] at hrenders
    exact ⟨_, plainPrint_binary hsymbol (atLeast_zero_of_known hleft) (atLeast_zero_of_known hright)
      hprintL hprintR span, hrenders⟩

/-- A printable tree is known, and its numbers are read from their texts, rounded for display. -/
theorem Printable.known {e : Expr} (h : e.Printable) : e.known ∧ ∀ x ∈ e.numbers, ∃ y,
    Token.Lexeme (.number y) x.display.toList ∧ y.display = x.display ∧
      y.toRat = roundHalfUp Decimal.displayPlaces x.toRat := by
  induction e with
  | missing => exact h.elim
  | number value raw span =>
    refine ⟨rfl, List.forall_mem_singleton.2 ⟨value.reread, ?_, Decimal.display_reread h.1,
      Decimal.toRat_reread h.1⟩⟩
    exact Decimal.lexeme_reread h.1 (Decimal.inRange_reread h.1 h.2)
  | group inner span ih => exact ih h
  | unary symbol operand span ih =>
    exact ⟨Bool.and_eq_true_iff.2 ⟨h.1, (ih h.2).1⟩, (ih h.2).2⟩
  | binary symbol left right span ihl ihr =>
    obtain ⟨hsymbol, hleft, hright⟩ := h
    exact ⟨known_binary_iff.2 ⟨hsymbol, (ihl hleft).1, (ihr hright).1⟩,
      List.forall_mem_append.2 ⟨(ihl hleft).2, (ihr hright).2⟩⟩

/-- **The text of a printable tree shows the tree** with groups for its parentheses. -/
theorem Printable.shows {e : Expr} (h : e.Printable) (hstack : e.unstacked) :
    ∃ text, e.plainPrint = .ok text ∧ Shows text e.regroup := by
  obtain ⟨text, hprint, hrenders⟩ := exists_renders h.known.1 hstack h.known.2
  refine ⟨text, hprint, fun start => ?_⟩
  obtain ⟨tokens, read, hscans, hderives, hmatches, hagain⟩ := hrenders start
  exact ⟨tokens, read, hscans, hderives, hmatches.alike, hagain⟩

/-- A tree that is read is printable if its numbers are. -/
theorem Derives.printable {tokens : List Token} {e : Expr} (h : Derives tokens e)
    (hnumbers : ∀ token ∈ tokens, ∀ value : Decimal, token.kind = .number value →
      0 ≤ value.toRat ∧ value.toRat < 10 ^ Decimal.wholeDigits) : e.Printable := by
  induction h with
  | @number token value hkind => exact hnumbers token (List.mem_singleton_self _) value hkind
  | group _ _ _ ih =>
    exact ih fun token htoken => hnumbers token
      (List.mem_cons_of_mem _ (List.mem_append_left _ htoken))
  | unary _ hsign _ _ ih =>
    exact ⟨hsign, ih fun token htoken => hnumbers token (List.mem_cons_of_mem _ htoken)⟩
  | binary _ hsymbol _ _ _ _ ihl ihr =>
    refine ⟨⟨_, hsymbol⟩, ihl fun token htoken => ?_, ihr fun token htoken => ?_⟩
    · exact hnumbers token (List.mem_append_left _ htoken)
    · exact hnumbers token (List.mem_append_right _ (List.mem_cons_of_mem _ htoken))

/-- The trees of texts are such as are printed and read back; only for the size of their numbers the
text must not be too long. -/
theorem unstacked_of_ofText {source : String} {e : Expr} (h : ofText source = .ok e) :
    e.unstacked ∧ (source.length ≤ Decimal.wholeDigits → e.Printable) := by
  obtain ⟨tokens, hscans, hderives, -⟩ := ofText_eq_ok_iff.1 h
  refine ⟨hderives.unstacked, fun hlength => hderives.printable fun token htoken value hkind => ?_⟩
  obtain ⟨-, hsign, hdigits, hexponent⟩ := hscans.number htoken hkind
  have hrat : value.toRat = value.coefficient * 10 ^ value.exponent := by
    rw [Decimal.toRat, hsign, Decimal.signed, if_neg Bool.false_ne_true, Int.cast_natCast]
  have hpow : (10 : ℚ) ^ value.exponent ≤ 1 := zpow_le_one_of_nonpos₀ (by norm_num) hexponent
  rw [hrat]
  refine ⟨by positivity, (mul_le_of_le_one_right (Nat.cast_nonneg _) hpow).trans_lt ?_⟩
  have hbound := hdigits.trans_le (Nat.pow_le_pow_right (by decide : 0 < 10)
    (show source.toList.length ≤ _ from hlength))
  exact_mod_cast hbound

/-- **Printing and reading back.** The text of a printable tree is read, unless it has too many
levels, as the tree with its numbers rounded for display and with groups where the printer put
parentheses, and what is read is printed as the same text. What is read is a printable tree. -/
theorem print_roundTrip :
    (∀ {source : String} {e : Expr}, ofText source = .ok e →
      e.unstacked ∧ (source.length ≤ Decimal.wholeDigits → e.Printable)) ∧
    ∀ {e : Expr}, e.Printable → e.unstacked → e.nesting ≤ nestingLimit →
      ∃ text, e.print = .ok text ∧ (e.regroup.nesting ≤ nestingLimit →
        ∃ read, ofText text = .ok read ∧
          Alike (roundHalfUp Decimal.displayPlaces) e.regroup read ∧ read.print = .ok text) := by
  refine ⟨unstacked_of_ofText, fun {e} hprintable hstack hnesting => ?_⟩
  obtain ⟨text, hprint, hshows⟩ := hprintable.shows hstack
  refine ⟨text, (print_eq_plainPrint hnesting).trans hprint, fun hlevels => ?_⟩
  obtain ⟨tokens, read, hscans, hderives, halike, hagain⟩ := hshows 0
  have hread : read.nesting ≤ nestingLimit := halike.nesting_eq.trans_le hlevels
  exact ⟨read, ofText_eq_ok_iff.2 ⟨tokens, hscans, hderives, hread⟩, halike,
    (print_eq_plainPrint hread).trans hagain⟩

/-- A sum under a product, a sign under a sign and a number of thirteen places. -/
theorem print_roundTrip_parentheses :
    let small := number ⟨false, 12345, -13⟩ "" Span.none
    let sum := binary "+" (number .one "" Span.none) small Span.none
    let signs := unary "-" (unary "+" (number .one "" Span.none) Span.none) Span.none
    let e := binary "*" sum signs Span.none
    e.print = .ok "(1 + 0.000000001235) * -(+1)" ∧
      ∃ read, ofText "(1 + 0.000000001235) * -(+1)" = .ok read ∧
        Alike (roundHalfUp Decimal.displayPlaces) e.regroup read ∧
        read.print = .ok "(1 + 0.000000001235) * -(+1)" := by
  intro small sum signs e
  have hsmall : ∀ q : ℚ, 0 ≤ q → q < 10 → 0 ≤ q ∧ q < 10 ^ Decimal.wholeDigits := by
    refine fun q hnonneg hlt => ⟨hnonneg, hlt.trans_le ?_⟩
    calc (10 : ℚ) = 10 ^ 1 := (pow_one _).symm
      _ ≤ 10 ^ Decimal.wholeDigits :=
        pow_le_pow_right₀ (by norm_num) (Nat.one_le_pow _ _ (by decide))
  have hone : 0 ≤ Decimal.one.toRat ∧ Decimal.one.toRat < 10 ^ Decimal.wholeDigits :=
    hsmall _ (by norm_num [Decimal.toRat, Decimal.one, Decimal.signed])
      (by norm_num [Decimal.toRat, Decimal.one, Decimal.signed])
  have hprintable : e.Printable :=
    ⟨⟨_, rfl⟩, ⟨⟨_, rfl⟩, hone, hsmall _ (by norm_num [Decimal.toRat, Decimal.signed])
      (by norm_num [Decimal.toRat, Decimal.signed])⟩, rfl, rfl, hone⟩
  have hprint : e.print = .ok "(1 + 0.000000001235) * -(+1)" :=
    (print_eq_plainPrint (by decide)).trans rfl
  obtain ⟨text, htext, hread⟩ := print_roundTrip.2 hprintable (by decide) (by decide)
  obtain rfl := Except.ok.inj (hprint.symm.trans htext)
  exact ⟨hprint, hread (by decide)⟩

end Expr
end Reckoner
