/-
# Maximal munch

A text is cut into pieces from its front on, each of them the longest that stands there (`Munches`),
until the rest begins with none. What the pieces are is said by a grammar, not by a scanner.

| piece | form |
| --- | --- |
| blank | one blank |
| power | `**` |
| symbol | one of `+ - * / % ^ ( )` |
| literal | a digit, then digits and separators, then perhaps a point and more of them |
| literal | a point, then digits and separators |

Every text is cut in one way (`exists_munches`, `Munches.unique`). It is scanned exactly if there is
no rest and every literal has a digit, and then the tokens are the pieces that are no blanks, each
where it stands and with the value that it writes; otherwise the error is that of the first literal
without a digit, or of the first character of the rest (`scan_munches`).
-/

import Reckoner.Proofs.Decimal.Value
import Reckoner.Proofs.Expr.Excerpt

namespace Reckoner
namespace Token

/-! ### Pieces -/

/-- Digits and separators from a digit on, perhaps with a point among them, or behind a point. -/
inductive Literal : List Char → Prop
  | whole {c : Char} {cs : List Char} : c.isDigit → (∀ d ∈ cs, isLiteralPart d) → Literal (c :: cs)
  | pointed {c : Char} {cs ds : List Char} : c.isDigit → (∀ d ∈ cs, isLiteralPart d) →
      (∀ d ∈ ds, isLiteralPart d) → Literal (c :: cs ++ '.' :: ds)
  | fraction {ds : List Char} : (∀ d ∈ ds, isLiteralPart d) → Literal ('.' :: ds)

/-- What a text is cut into. -/
inductive Piece : List Char → Prop
  | blank {c : Char} : Text.isBlank c → Piece [c]
  | power : Piece ['*', '*']
  | symbol {c : Char} : c ∈ symbolChars → Piece [c]
  | literal {raw : List Char} : Literal raw → Piece raw

/-- The longest piece at the start of a text. -/
structure Longest (raw cs : List Char) : Prop where
  piece : Piece raw
  isPrefix : raw <+: cs
  length_le : ∀ other, Piece other → other <+: cs → other.length ≤ raw.length

/-- A text cut into its longest pieces, and the rest, which begins with no piece. -/
inductive Munches : List Char → List (List Char) → List Char → Prop
  | stop {cs : List Char} : (∀ raw, Piece raw → ¬raw <+: cs) → Munches cs [] cs
  | next {raw cs rest : List Char} {pieces : List (List Char)} : Longest raw (raw ++ cs) →
      Munches cs pieces rest → Munches (raw ++ cs) (raw :: pieces) rest

/-- Whether a piece has a digit. -/
def hasDigit (raw : List Char) : Bool := raw.any Char.isDigit

/-- The decimal of the digits of a literal, with as many places as digits behind its point. -/
def written (raw : List Char) : Decimal :=
  ⟨false, Nat.ofDigitChars 10 (raw.filter Char.isDigit) 0,
    -((raw.dropWhile (· != '.')).countP Char.isDigit : ℤ)⟩

/-- What kind of token a piece is. -/
inductive Denotes : Kind → List Char → Prop
  | operator {symbol : String} : symbol ∈ ["**", "+", "-", "*", "/", "%", "^"] →
      Denotes (.operator symbol) symbol.toList
  | opening : Denotes .opening ['(']
  | closing : Denotes .closing [')']
  | number {raw : List Char} : Literal raw → hasDigit raw → Denotes (.number (written raw)) raw

/-- The first error of a text with the given pieces and rest: its message and its place. -/
inductive FirstFault (pieces : List (List Char)) (rest : List Char) : String → Span → Prop
  | digitless {before after : List (List Char)} {raw : List Char} :
      pieces = before ++ raw :: after → (∀ p ∈ before, Literal p → hasDigit p) →
        Literal raw → hasDigit raw = false → FirstFault pieces rest "invalid number"
          ⟨before.flatten.length, before.flatten.length + raw.length⟩
  | unreadable {c : Char} {cs : List Char} : (∀ p ∈ pieces, Literal p → hasDigit p) →
      rest = c :: cs → FirstFault pieces rest ("unsupported character '" ++ c.toString ++ "'")
        ⟨pieces.flatten.length, pieces.flatten.length + 1⟩

/-- The tokens of a text that is cut into the given pieces. -/
structure Faithful (source : String) (pieces : List (List Char)) (tokens : List Token) : Prop where
  inOrder : InOrder tokens
  inside : ∀ token ∈ tokens, 0 ≤ token.span.start ∧ token.span.stop ≤ source.length
  raw_eq : ∀ token ∈ tokens, token.raw = token.span.excerpt source
  /-- There are only blanks outside the tokens. -/
  isBlank_outside : ∀ (i : ℕ) (c : Char), source.toList[i]? = some c →
    (∀ token ∈ tokens, ¬(token.span.start ≤ i ∧ i < token.span.stop)) → Text.isBlank c
  kind_ne_finish : ∀ token ∈ tokens, token.kind ≠ .finish
  denotes : ∀ token ∈ tokens, Denotes token.kind token.raw.toList
  /-- No piece is lost, blanks aside. -/
  pieces_eq : tokens.map (fun token => token.raw.toList) =
    pieces.filter fun raw => !raw.all Text.isBlank

/-! ### Every text is cut in one way -/

/-- No piece is empty. -/
theorem Piece.length_pos {raw : List Char} (h : Piece raw) : 0 < raw.length := by
  cases h with
  | literal h => cases h <;> exact Nat.succ_pos _
  | _ => exact Nat.succ_pos _

/-- At one place only one piece is the longest. -/
theorem Longest.unique {raw raw' cs : List Char} (h : Longest raw cs) (h' : Longest raw' cs) :
    raw = raw' := by
  have hlength := le_antisymm (h'.length_le raw h.piece h.isPrefix)
    (h.length_le raw' h'.piece h'.isPrefix)
  exact (List.prefix_of_prefix_length_le h.isPrefix h'.isPrefix hlength.le).eq_of_length hlength

/-- Where a piece stands, one of the pieces there is the longest. -/
theorem exists_longest {raw cs : List Char} (h : Piece raw) (hfront : raw <+: cs) :
    ∃ longest, Longest longest cs := by
  by_contra! hnone
  -- Otherwise there would be a piece of every length, but none is longer than the text.
  have hlonger : ∀ n, ∃ other, Piece other ∧ other <+: cs ∧ n ≤ other.length := by
    intro n
    induction n with
    | zero => exact ⟨raw, h, hfront, Nat.zero_le _⟩
    | succ n ih =>
      obtain ⟨other, hpiece, hother, hn⟩ := ih
      by_contra! hshort
      exact hnone other ⟨hpiece, hother, fun another ha hc =>
        (Nat.lt_succ_iff.1 (hshort another ha hc)).trans hn⟩
  obtain ⟨other, -, hother, hlength⟩ := hlonger (cs.length + 1)
  have := hother.length_le
  omega

/-- **Every text is cut.** -/
theorem exists_munches (cs : List Char) : ∃ pieces rest, Munches cs pieces rest := by
  induction hn : cs.length using Nat.strong_induction_on generalizing cs with
  | _ n ih =>
    by_cases h : ∃ raw, Piece raw ∧ raw <+: cs
    · obtain ⟨raw, hpiece, hfront⟩ := h
      obtain ⟨longest, hlongest⟩ := exists_longest hpiece hfront
      obtain ⟨cs', rfl⟩ := hlongest.isPrefix
      have hpos := hlongest.piece.length_pos
      rw [List.length_append] at hn
      obtain ⟨pieces, rest, hrest⟩ := ih cs'.length (by omega) cs' rfl
      exact ⟨longest :: pieces, rest, .next hlongest hrest⟩
    · push Not at h
      exact ⟨[], cs, .stop h⟩

/-- **A text is cut in one way.** -/
theorem Munches.unique {cs rest rest' : List Char} {pieces pieces' : List (List Char)}
    (h : Munches cs pieces rest) (h' : Munches cs pieces' rest') :
    pieces = pieces' ∧ rest = rest' := by
  induction h generalizing pieces' with
  | @stop cs hnone =>
    cases h' with
    | stop => exact ⟨rfl, rfl⟩
    | next hlongest => exact absurd hlongest.isPrefix (hnone _ hlongest.piece)
  | @next raw cs rest pieces hlongest hrest ih =>
    generalize hcs : raw ++ cs = whole at h' hlongest
    cases h' with
    | stop hnone => exact absurd hlongest.isPrefix (hnone _ hlongest.piece)
    | @next raw' cs' _ pieces' hlongest' hrest' =>
      obtain rfl := hlongest.unique hlongest'
      obtain rfl := List.append_cancel_left hcs
      obtain ⟨rfl, rfl⟩ := ih hrest'
      exact ⟨rfl, rfl⟩

/-! ### The longest piece and the scanner -/

/-- A literal begins as one and is not left off before its end. -/
theorem Literal.exists_cons {raw : List Char} (h : Literal raw) : ∃ c cs, raw = c :: cs ∧
    isLiteralStart c ∧ splitLiteral (c == '.') cs = (cs, []) := by
  have hsplit (pointSeen : Bool) {cs : List Char} (hcs : ∀ d ∈ cs, isLiteralPart d) :
      splitLiteral pointSeen cs = (cs, []) := by
    have := splitLiteral_parts pointSeen hcs []
    rwa [List.append_nil, splitLiteral, List.append_nil] at this
  have hstart {c : Char} (hc : c.isDigit) : isLiteralStart c := by
    rw [isLiteralStart, isDigit_eq, hc, Bool.true_or]
  cases h with
  | @whole c cs hc hcs => exact ⟨c, cs, rfl, hstart hc, hsplit _ hcs⟩
  | @pointed c cs ds hc hcs hds =>
    refine ⟨c, cs ++ '.' :: ds, rfl, hstart hc, ?_⟩
    rw [beq_false_of_ne (ne_point_of_isDigit hc), splitLiteral_parts false hcs, splitLiteral_cons,
      if_pos (by decide), show (false || '.' == '.') = true by decide, hsplit true hds]
  | fraction hds => exact ⟨'.', _, rfl, by decide, hsplit _ hds⟩

/-- A literal that can go on is a longer one. -/
theorem Literal.concat {raw : List Char} (h : Literal raw) {d : Char}
    (hd : continues (raw.contains '.') d) : Literal (raw ++ [d]) := by
  have hconcat {cs : List Char} (hcs : ∀ c ∈ cs, isLiteralPart c) (hpart : isLiteralPart d) :
      ∀ c ∈ cs ++ [d], isLiteralPart c := by
    intro c hc
    rcases List.mem_append.1 hc with hc | hc
    · exact hcs c hc
    · exact List.mem_singleton.1 hc ▸ hpart
  rw [continues, Bool.or_eq_true] at hd
  cases h with
  | whole hc hcs =>
    rcases hd with hpoint | hpart
    · obtain ⟨hpoint, -⟩ := Bool.and_eq_true_iff.1 hpoint
      rw [beq_iff_eq.1 hpoint]
      exact .pointed hc hcs fun _ h => absurd h List.not_mem_nil
    · exact .whole hc (hconcat hcs hpart)
  | pointed hc hcs hds =>
    rcases hd with hpoint | hpart
    · simp at hpoint
    · rw [List.append_assoc]
      exact .pointed hc hcs (hconcat hds hpart)
  | fraction hds =>
    rcases hd with hpoint | hpart
    · simp at hpoint
    · exact .fraction (hconcat hds hpart)

/-- Each symbol is a token of its own. -/
theorem exists_symbol? {c : Char} (h : c ∈ symbolChars) :
    ∃ kind, symbol? c = some kind ∧ Denotes kind [c] := by
  simp only [symbolChars, List.mem_cons, List.not_mem_nil, or_false] at h
  obtain rfl | rfl | rfl | rfl | rfl | rfl | rfl | rfl := h
  · exact ⟨_, rfl, .operator (by decide)⟩
  · exact ⟨_, rfl, .operator (by decide)⟩
  · exact ⟨_, rfl, .operator (by decide)⟩
  · exact ⟨_, rfl, .operator (by decide)⟩
  · exact ⟨_, rfl, .operator (by decide)⟩
  · exact ⟨_, rfl, .operator (by decide)⟩
  · exact ⟨_, rfl, .opening⟩
  · exact ⟨_, rfl, .closing⟩

/-- A piece that grows is a longer one. -/
theorem Piece.concat {raw : List Char} (h : Piece raw) {d : Char} (hd : grows raw d) :
    Piece (raw ++ [d]) := by
  cases h with
  | @blank c hblank =>
    have hstart : isLiteralStart c = false := by
      by_contra h
      cases hblank.symm.trans (isBlank_of_isLiteralStart (Bool.not_eq_false _ ▸ h))
    have hstar : ([c] == ['*']) = false :=
      beq_false_of_ne fun he => ne_star_of_isBlank hblank (List.cons.inj he).1
    rw [grows, hstar, List.head?_cons, Option.any_some, hstart] at hd
    cases hd
  | power => cases hd
  | symbol hc =>
    obtain ⟨kind, hkind, -⟩ := exists_symbol? hc
    rw [grows_symbol hkind, Bool.and_eq_true, beq_iff_eq, beq_iff_eq] at hd
    rw [hd.1, hd.2]
    exact .power
  | literal h =>
    obtain ⟨c, cs, rfl, hstart, -⟩ := h.exists_cons
    rw [grows_literal hstart] at hd
    exact .literal (h.concat (by rwa [List.contains_cons, Bool.beq_comm]))

/-- **The longest piece ends where no character goes on with it.** -/
theorem Longest.ends {raw cs : List Char} (h : Longest raw (raw ++ cs)) : Ends raw cs := by
  intro d hd
  obtain ⟨cs', rfl⟩ := List.head?_eq_some_iff.1 hd
  by_contra hgrows
  rw [Bool.not_eq_false] at hgrows
  have hfront : raw ++ [d] <+: raw ++ d :: cs' := ⟨cs', by rw [List.append_assoc]; rfl⟩
  have hlength := h.length_le _ (h.piece.concat hgrows) hfront
  rw [List.length_append, List.length_singleton] at hlength
  omega

/-! ### What a literal writes -/

/-- Of a text without a digit, no digits are left. -/
theorem isEmpty_filter_isDigit (cs : List Char) :
    (cs.filter Char.isDigit).isEmpty = !hasDigit cs := by
  rw [Bool.eq_iff_iff, List.isEmpty_iff, List.filter_eq_nil_iff, Bool.not_eq_true', hasDigit,
    List.any_eq_false]

/-- A decimal holds the digits of every literal that is not too long. -/
theorem inRange_written {raw : List Char} (h : raw.length < 10 ^ 17) : (written raw).inRange := by
  have hdigits : ∀ c ∈ raw.filter Char.isDigit, c.isDigit := fun c hc => (List.mem_filter.1 hc).2
  have hlength : (raw.filter Char.isDigit).length ≤ raw.length := List.length_filter_le ..
  have hplaces : (raw.dropWhile (· != '.')).countP Char.isDigit ≤ raw.length :=
    List.countP_le_length.trans (List.dropWhile_suffix _).length_le
  have hcoefficient : Nat.ofDigitChars 10 (raw.filter Char.isDigit) 0 < 10 ^ (raw.length + 1) := by
    rw [← Digits.ofChars_eq hdigits]
    exact (Digits.ofChars_lt _).trans_le (Nat.pow_le_pow_right (by decide) (by omega))
  have hcount := (Digits.count_le_iff (Nat.succ_pos _)).2 hcoefficient
  refine Decimal.inRange_of_places false (hcount.trans ?_) (hplaces.trans ?_)
  · rw [Decimal.precision]
    omega
  · rw [Decimal.precision]
    omega

/-- What is written before and behind the point of a literal. -/
theorem literalValue?_eq_written (xs ys tail : List Char) (hxs : ∀ c ∈ xs, isLiteralPart c)
    (hys : ∀ c ∈ ys, isLiteralPart c) (htail : tail = [] ∧ ys = [] ∨ tail = '.' :: ys)
    (hrange : (written (xs ++ tail)).inRange) : literalValue? (xs ++ tail) =
      if hasDigit (xs ++ tail) then some (written (xs ++ tail)) else none := by
  have hpoint : ∀ c ∈ xs, (c != '.') = true := fun c hc =>
    bne_iff_ne.2 (ne_point_of_isLiteralPart (hxs c hc))
  have hdigits : ∀ c ∈ (xs ++ tail).filter Char.isDigit, c.isDigit :=
    fun c hc => (List.mem_filter.1 hc).2
  have hfilter : tail.filter Char.isDigit = ys.filter Char.isDigit := by
    rcases htail with ⟨rfl, rfl⟩ | rfl <;> rfl
  have hplaces : ((xs ++ tail).dropWhile (· != '.')).countP Char.isDigit =
      (ys.filter Char.isDigit).length := by
    rw [List.dropWhile_append_of_pos hpoint, List.countP_eq_length_filter]
    rcases htail with ⟨rfl, rfl⟩ | rfl <;> rfl
  have hwritten : written (xs ++ tail) = ⟨false, Digits.ofChars (xs.filter Char.isDigit ++
      ys.filter Char.isDigit), -((ys.filter Char.isDigit).length : ℤ)⟩ := by
    rw [written, ← Digits.ofChars_eq hdigits, List.filter_append, hfilter, hplaces]
  have hhas : hasDigit (xs ++ tail) =
      !((xs.filter Char.isDigit).isEmpty && (ys.filter Char.isDigit).isEmpty) := by
    rw [← hfilter, isEmpty_filter_isDigit, isEmpty_filter_isDigit, ← Bool.not_or, Bool.not_not,
      hasDigit, List.any_append, hasDigit, hasDigit]
  rw [literalValue?_append hxs hys htail hwritten hrange, hhas]
  cases (xs.filter Char.isDigit).isEmpty && (ys.filter Char.isDigit).isEmpty <;> rfl

/-- A literal that is not too long has the value that is written, if it has a digit. -/
theorem Literal.literalValue?_eq {raw : List Char} (h : Literal raw)
    (hlength : raw.length < 10 ^ 17) :
    literalValue? raw = if hasDigit raw then some (written raw) else none := by
  have hrange := inRange_written hlength
  have hdigit {c : Char} {cs : List Char} (hc : c.isDigit) (hcs : ∀ d ∈ cs, isLiteralPart d) :
      ∀ d ∈ c :: cs, isLiteralPart d := List.forall_mem_cons.2 ⟨isLiteralPart_of_isDigit hc, hcs⟩
  cases h with
  | whole hc hcs =>
    have hvalue := literalValue?_eq_written _ [] [] (hdigit hc hcs) (by simp) (.inl ⟨rfl, rfl⟩)
    rw [List.append_nil] at hvalue
    exact hvalue hrange
  | pointed hc hcs hds => exact literalValue?_eq_written _ _ _ (hdigit hc hcs) hds (.inr rfl) hrange
  | fraction hds => exact literalValue?_eq_written [] _ _ (by simp) hds (.inr rfl) hrange

/-! ### Pieces and tokens -/

/-- Where there is a fault, a text is not read to its end. -/
theorem FirstFault.not_read {pieces : List (List Char)} {rest : List Char} {message : String}
    {span : Span} (h : FirstFault pieces rest message span) :
    ¬(rest = [] ∧ ∀ raw ∈ pieces, Literal raw → hasDigit raw) := by
  rintro ⟨hrest, hdigits⟩
  cases h with
  | digitless hpieces _ hliteral hdigit =>
    rw [hdigits _ (hpieces ▸ by simp) hliteral] at hdigit
    cases hdigit
  | unreadable _ hcons =>
    rw [hrest] at hcons
    cases hcons

/-- A piece is a blank or a token, unless it is a literal without a digit. -/
theorem Piece.cases {raw : List Char} (h : Piece raw) (hdigit : Literal raw → hasDigit raw)
    (hlength : raw.length < 10 ^ 17) : (∃ c, raw = [c] ∧ Text.isBlank c) ∨
      ∃ kind, Lexeme kind raw ∧ Denotes kind raw := by
  cases h with
  | blank hblank => exact .inl ⟨_, rfl, hblank⟩
  | power => exact .inr ⟨_, .power, .operator (by decide)⟩
  | symbol hc =>
    obtain ⟨kind, hkind, hdenotes⟩ := exists_symbol? hc
    exact .inr ⟨kind, .symbol hkind, hdenotes⟩
  | literal h =>
    have hvalue := h.literalValue?_eq hlength
    rw [if_pos (hdigit h)] at hvalue
    have hnumber := Denotes.number h (hdigit h)
    obtain ⟨c, cs, rfl, hstart, hcs⟩ := h.exists_cons
    exact .inr ⟨_, .literal hstart hcs hvalue, hnumber⟩

/-- A literal without a digit is no number. -/
theorem Literal.scanFrom_digitless {raw rest : List Char} (h : Literal raw)
    (hdigit : hasDigit raw = false) (hlength : raw.length < 10 ^ 17) (hends : Ends raw rest)
    (done : List Token) (start : ℕ) : scanFrom done start (raw ++ rest) =
      .error ⟨.invalidNumber, ⟨start, start + raw.length⟩⟩ := by
  have hvalue := h.literalValue?_eq hlength
  rw [hdigit, if_neg Bool.false_ne_true] at hvalue
  obtain ⟨c, cs, rfl, hstart, hcs⟩ := h.exists_cons
  rw [scanFrom_literal hstart hcs hends, hvalue, Option.elim_none]

/-- A character that begins no piece is not read. -/
theorem scanFrom_unreadable {c : Char} {cs : List Char} (h : ∀ raw, Piece raw → ¬raw <+: c :: cs)
    (done : List Token) (start : ℕ) :
    scanFrom done start (c :: cs) = .error ⟨.unsupported c, ⟨start, start + 1⟩⟩ := by
  have hone (hc : Piece [c]) : False := h [c] hc ⟨cs, rfl⟩
  have hblank : Text.isBlank c = false := by
    by_contra hc
    exact hone (.blank (Bool.not_eq_false _ ▸ hc))
  have hstart : isLiteralStart c = false := by
    by_contra hc
    rw [Bool.not_eq_false, isLiteralStart, Bool.or_eq_true, beq_iff_eq] at hc
    rcases hc with hc | rfl
    · exact hone (.literal (.whole hc fun _ h => absurd h List.not_mem_nil))
    · exact hone (.literal (.fraction fun _ h => absurd h List.not_mem_nil))
  have hsymbol : symbol? c = none := by
    cases hc : symbol? c with
    | none => rfl
    | some kind => exact (hone (.symbol (mem_of_symbol?_eq_some hc))).elim
  rw [scanFrom, hblank, hstart, hsymbol]
  · rfl
  · rintro cs' rfl -
    exact hone (.symbol (by decide))

/-- A lexeme is not blank. -/
theorem Lexeme.all_isBlank {kind : Kind} {raw : List Char} (h : Lexeme kind raw) :
    raw.all Text.isBlank = false := by
  cases h with
  | power => decide
  | symbol hsymbol => rw [List.all_cons, isBlank_of_symbol?_eq_some hsymbol, Bool.false_and]
  | literal hstart => rw [List.all_cons, isBlank_of_isLiteralStart hstart, Bool.false_and]

/-- Tokens that are the given pieces, blanks aside. -/
def Reads (pieces : List (List Char)) (tokens : List Token) : Prop :=
  tokens.map (fun token => token.raw.toList) = pieces.filter (fun raw => !raw.all Text.isBlank) ∧
    ∀ token ∈ tokens, Denotes token.kind token.raw.toList

/-- **Scanning goes from piece to piece.** Behind pieces without a fault, either the text is cut to
its end and its pieces are read, or there is a first fault, which is the error. -/
theorem Munches.scanFrom {cs rest : List Char} {pieces : List (List Char)}
    (h : Munches cs pieces rest) (hlength : cs.length < 10 ^ 17) (before : List (List Char))
    (hbefore : ∀ raw ∈ before, Literal raw → hasDigit raw) (done : List Token) :
    (rest = [] ∧ (∀ raw ∈ pieces, Literal raw → hasDigit raw) ∧
      ∃ tokens, Scans before.flatten.length cs tokens ∧ Reads pieces tokens) ∨
    ∃ e, Token.scanFrom done before.flatten.length cs = .error e ∧
      FirstFault (before ++ pieces) rest e.fault.message e.span := by
  induction h generalizing before done with
  | @stop cs hnone =>
    cases cs with
    | nil =>
      refine .inl ⟨rfl, fun _ h => absurd h List.not_mem_nil, [], .nil, rfl, ?_⟩
      exact fun _ h => absurd h List.not_mem_nil
    | cons c cs =>
      refine .inr ⟨_, scanFrom_unreadable hnone done _, ?_⟩
      rw [List.append_nil]
      exact .unreadable hbefore rfl
  | @next raw cs rest pieces hlongest hmunches ih =>
    rw [List.length_append] at hlength
    by_cases hdigit : Literal raw → hasDigit raw
    · -- The piece is read, and what comes behind it is scanned as before.
      have hbefore' : ∀ p ∈ before ++ [raw], Literal p → hasDigit p := by
        intro p hp
        rcases List.mem_append.1 hp with hp | hp
        · exact hbefore p hp
        · exact List.mem_singleton.1 hp ▸ hdigit
      have hoffset : (before ++ [raw]).flatten.length = before.flatten.length + raw.length := by
        rw [List.flatten_append, List.length_append, List.flatten_singleton]
      have hpieces : before ++ [raw] ++ pieces = before ++ raw :: pieces := by
        rw [List.append_assoc]
        rfl
      have hrest := ih (by omega) _ hbefore'
      rw [hoffset, hpieces] at hrest
      obtain ⟨c, rfl, hblank⟩ | ⟨kind, hlexeme, hdenotes⟩ :=
        hlongest.piece.cases hdigit (by omega)
      · obtain ⟨hnil, hdigits, tokens, hscans, hraws, htokens⟩ | ⟨e, he, hfault⟩ := hrest done
        · refine .inl ⟨hnil, List.forall_mem_cons.2 ⟨hdigit, hdigits⟩, tokens,
            .blank hblank hscans, ?_, htokens⟩
          rw [hraws, List.filter_cons, List.all_cons, hblank, List.all_nil]
          rfl
        · exact .inr ⟨e, (scanFrom_blank hblank done _ cs).trans he, hfault⟩
      · obtain ⟨hnil, hdigits, tokens, hscans, hraws, htokens⟩ | ⟨e, he, hfault⟩ :=
          hrest (place kind raw before.flatten.length :: done)
        · refine .inl ⟨hnil, List.forall_mem_cons.2 ⟨hdigit, hdigits⟩, _,
            .token hlexeme hlongest.ends hscans, ?_, List.forall_mem_cons.2 ⟨?_, htokens⟩⟩
          · rw [List.map_cons, hraws, List.filter_cons, hlexeme.all_isBlank, place,
              String.toList_ofList]
            rfl
          · rwa [place, String.toList_ofList]
        · exact .inr ⟨e, (scanFrom_lexeme hlexeme hlongest.ends done _).trans he, hfault⟩
    · obtain ⟨hliteral, hnone⟩ := not_forall.1 hdigit
      rw [Bool.not_eq_true] at hnone
      exact .inr ⟨_, hliteral.scanFrom_digitless hnone (by omega) hlongest.ends done _,
        .digitless rfl hbefore hliteral hnone⟩

/-! ### The tokens of a text -/

/-- There are only blanks outside the tokens of a text. -/
theorem Scans.isBlank_outside {start : ℕ} {cs : List Char} {tokens : List Token}
    (h : Scans start cs tokens) {i : ℕ} {c : Char} (hc : cs[i]? = some c)
    (hout : ∀ token ∈ tokens,
      ¬(token.span.start ≤ (start + i : ℕ) ∧ ((start + i : ℕ) : ℤ) < token.span.stop)) :
    Text.isBlank c := by
  induction h generalizing i with
  | nil => cases hc
  | @blank start d cs tokens hblank _ ih =>
    cases i with
    | zero => exact Option.some.inj hc ▸ hblank
    | succ i =>
      rw [← Nat.add_assoc, Nat.add_right_comm] at hout
      exact ih hc hout
  | @token start kind raw rest tokens _ _ _ ih =>
    obtain ⟨hraw, hrest⟩ := List.forall_mem_cons.1 hout
    simp only [place] at hraw
    have hi : raw.length ≤ i := by omega
    obtain ⟨j, rfl⟩ := Nat.exists_eq_add_of_le hi
    rw [List.getElem?_append_right hi, Nat.add_sub_cancel_left] at hc
    rw [← Nat.add_assoc] at hrest
    exact ih hc hrest

/-- The tokens of a text show what the text is. -/
theorem Scans.faithful {source : String} {pieces : List (List Char)} {tokens : List Token}
    (h : Scans 0 source.toList tokens) (hreads : Reads pieces tokens) :
    Faithful source pieces tokens where
  inOrder := h.inOrder.2
  inside token htoken := by
    have := h.inOrder.1 token htoken
    rw [String.length_toList] at this
    omega
  raw_eq token htoken := by
    obtain ⟨kind, raw, xs, ys, hsource, rfl, -⟩ := h.exists_place htoken
    simp only [place, Span.excerpt, hsource]
    rw [show ((0 + xs.length : ℕ) : ℤ).toNat = xs.length by omega, List.drop_left,
      show (((0 + xs.length : ℕ) : ℤ) + raw.length - (0 + xs.length : ℕ)).toNat = raw.length by
        omega,
      List.take_left]
  isBlank_outside i c hc hout := h.isBlank_outside hc (by rwa [Nat.zero_add])
  kind_ne_finish := h.kind_ne_finish
  denotes := hreads.2
  pieces_eq := hreads.1

/-- **Scanning is reading with maximal munch.** A text is cut into its longest pieces, one after the
other, in one way. It has tokens exactly if nothing is left of it and each of its literals has a
digit. Then the tokens, up to the one at the end, are its pieces without the blanks: in order, each
with its own text and value. Otherwise the report shows the text and its first literal without a
digit or, if there is none, the first character that begins no piece. -/
theorem scan_munches {source : String} (hlength : source.length < 10 ^ 17) :
    ∃ pieces rest, Munches source.toList pieces rest ∧
      (∀ pieces' rest', Munches source.toList pieces' rest' → pieces' = pieces ∧ rest' = rest) ∧
      ((∃ tokens, scan source = .ok tokens) ↔
        rest = [] ∧ ∀ raw ∈ pieces, Literal raw → hasDigit raw) ∧
      (∀ tokens, scan source = .ok tokens → ∃ read, Faithful source pieces read ∧
        tokens = read ++ [⟨.finish, "", ⟨source.length, source.length⟩⟩]) ∧
      ∀ e, scan source = .error e → ∃ message span, FirstFault pieces rest message span ∧
        e.report source = ⟨.syntactic, message, span, source⟩ := by
  obtain ⟨pieces, rest, hmunches⟩ := exists_munches source.toList
  refine ⟨pieces, rest, hmunches, fun _ _ h => h.unique hmunches, ?_⟩
  obtain ⟨rfl, hdigits, read, hscans, hreads⟩ | ⟨e, he, hfault⟩ :=
    hmunches.scanFrom hlength [] (fun _ h => absurd h List.not_mem_nil) []
  · have hscan : scan source =
        .ok (read ++ [⟨.finish, "", ⟨source.length, source.length⟩⟩]) := by
      rw [scan_eq_ok_iff]
      refine ⟨read, hscans, ?_⟩
      rw [String.length_toList]
      simp [place]
    rw [hscan]
    refine ⟨iff_of_true ⟨_, rfl⟩ ⟨rfl, hdigits⟩, ?_, ?_⟩
    · intro tokens htokens
      exact ⟨read, hscans.faithful hreads, (Except.ok.inj htokens).symm⟩
    · intro e he
      cases he
  · have hscan : scan source = .error e := he
    rw [hscan]
    refine ⟨iff_of_false ?_ hfault.not_read, ?_, ?_⟩
    · rintro ⟨tokens, htokens⟩
      cases htokens
    · intro tokens htokens
      cases htokens
    · intro e' he'
      obtain rfl := Except.error.inj he'
      exact ⟨_, _, hfault, rfl⟩

/-- A second point, which begins a literal of its own, without a digit. -/
theorem scan_munches_points :
    ("1.. $".length < 10 ^ 17) ∧ ∃ pieces rest, Munches "1.. $".toList pieces rest ∧
      FirstFault pieces rest "invalid number" ⟨2, 3⟩ := by
  have hlength : "1.. $".length < 10 ^ 17 := by decide
  obtain ⟨pieces, rest, hmunches, -, -, -, herror⟩ := scan_munches hlength
  have hscan : scan "1.. $" = .error ⟨.invalidNumber, ⟨2, 3⟩⟩ := by decide +kernel
  obtain ⟨message, span, hfault, hreport⟩ := herror _ hscan
  obtain ⟨-, rfl, rfl, -⟩ := Report.mk.inj hreport
  exact ⟨hlength, pieces, rest, hmunches, hfault⟩

end Token
end Reckoner
