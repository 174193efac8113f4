/-
# Spacing

Blanks between the tokens of a text and separators in its literals do not matter. A text may be
written with any blanks around its tokens, if there are some between any two (`Token.spread`), and
without its separators (`Token.dropSeparators`): the tokens stay what they are, so the text is read
as the same tree, or fails with the same message (`scan_respaced`).

No token grows by a blank, so with blanks behind it every token is read by itself. A separator
stands inside a literal and begins no token, so without it no token comes to stand next to another
one, and a literal keeps its digits and its point.
-/

import Reckoner.Proofs.Expr.Kinds
import Reckoner.Proofs.Expr.Progress

namespace Reckoner
namespace Token

/-! ### Blanks between tokens -/

/-- A text of pieces with gaps before, between and behind them. -/
def spread (gap : ℕ → List Char) : List (List Char) → List Char
  | [] => gap 0
  | raw :: raws => gap 0 ++ (raw ++ spread (fun i => gap (i + 1)) raws)

/-- Gaps of blanks that part `n` pieces. -/
structure Gaps (n : ℕ) (gap : ℕ → List Char) : Prop where
  isBlank : ∀ i, ∀ c ∈ gap i, Text.isBlank c
  ne_nil : ∀ i, 0 < i → i < n → gap i ≠ []

/-- The gaps behind the first one. -/
theorem Gaps.tail {n : ℕ} {gap : ℕ → List Char} (h : Gaps (n + 1) gap) :
    Gaps n fun i => gap (i + 1) where
  isBlank i := h.isBlank (i + 1)
  ne_nil i _ hi := h.ne_nil (i + 1) (Nat.succ_pos i) (Nat.succ_lt_succ hi)

/-- A blank is no separator. -/
theorem isSeparator_of_isBlank {c : Char} (h : Text.isBlank c) : isSeparator c = false := by
  rw [isSeparator, Bool.or_eq_false_iff, beq_eq_false_iff_ne, beq_eq_false_iff_ne]
  constructor <;> rintro rfl <;> exact absurd h (by decide)

/-- Every token ends before a blank. -/
theorem ends_of_isBlank {c : Char} (h : Text.isBlank c) (raw cs : List Char) :
    Ends raw (c :: cs) := by
  have hstart : isLiteralStart c = false := by
    by_contra hstart
    rw [isBlank_of_isLiteralStart (Bool.not_eq_false _ ▸ hstart)] at h
    cases h
  rw [isLiteralStart, Bool.or_eq_false_iff, beq_eq_false_iff_ne] at hstart
  have hpart : isLiteralPart c = false := by
    rw [isLiteralPart, hstart.1, isSeparator_of_isBlank h, Bool.or_false]
  exact ends_cons (ne_star_of_isBlank h) hstart.2 hpart raw cs

/-- A token ends in front of what is spread behind it. -/
theorem ends_spread {gap : ℕ → List Char} {raws : List (List Char)}
    (h : Gaps (raws.length + 1) gap) (raw : List Char) :
    Ends raw (spread (fun i => gap (i + 1)) raws) := by
  have hends (cs : List Char) (hne : gap 1 = [] → cs = []) : Ends raw (gap 1 ++ cs) := by
    cases hgap : gap 1 with
    | nil =>
      rw [hne hgap]
      exact ends_nil raw
    | cons c _ => exact ends_of_isBlank (h.isBlank 1 c (hgap ▸ List.mem_cons_self)) raw _
  cases raws with
  | nil =>
    have hlast := hends [] fun _ => rfl
    rw [List.append_nil] at hlast
    exact hlast
  | cons next raws =>
    have hlength : 1 < (next :: raws).length + 1 := by
      rw [List.length_cons]
      omega
    exact hends _ fun hgap => absurd hgap (h.ne_nil 1 Nat.one_pos hlength)

/-- Blanks in front of a text are passed over. -/
theorem Scans.blanks {start : ℕ} {gap cs : List Char} {tokens : List Token}
    (hgap : ∀ c ∈ gap, Text.isBlank c) (h : Scans (start + gap.length) cs tokens) :
    Scans start (gap ++ cs) tokens := by
  induction gap generalizing start with
  | nil => exact h
  | cons c gap ih =>
    obtain ⟨hc, hgap⟩ := List.forall_mem_cons.1 hgap
    refine .blank hc (ih hgap ?_)
    rwa [Nat.add_right_comm]

/-- **Tokens with blanks between them are read as they are.** -/
theorem exists_scans_spread {tokens : List Token}
    (h : ∀ token ∈ tokens, Lexeme token.kind token.raw.toList) {gap : ℕ → List Char}
    (hgap : Gaps tokens.length gap) (start : ℕ) :
    ∃ read, Scans start (spread gap (tokens.map fun token => token.raw.toList)) read ∧
      read.map (fun token => (token.kind, token.raw)) =
        tokens.map fun token => (token.kind, token.raw) := by
  induction tokens generalizing gap start with
  | nil =>
    have hscans := Scans.blanks (hgap.isBlank 0) (@Scans.nil (start + (gap 0).length))
    rw [List.append_nil] at hscans
    exact ⟨[], hscans, rfl⟩
  | cons token tokens ih =>
    obtain ⟨htoken, htokens⟩ := List.forall_mem_cons.1 h
    obtain ⟨read, hscans, hread⟩ :=
      ih htokens hgap.tail (start + (gap 0).length + token.raw.toList.length)
    have hends := @ends_spread gap (tokens.map fun token => token.raw.toList)
      (by rwa [List.length_map]) token.raw.toList
    refine ⟨_, .blanks (hgap.isBlank 0) (.token htoken hends hscans), ?_⟩
    rw [List.map_cons, List.map_cons, hread, place, String.ofList_toList]

/-! ### Literals without separators -/

/-- What begins a literal is no separator. -/
theorem isSeparator_of_isLiteralStart {c : Char} (h : isLiteralStart c) :
    isSeparator c = false := by
  rw [isSeparator, Bool.or_eq_false_iff, beq_eq_false_iff_ne, beq_eq_false_iff_ne]
  constructor <;> rintro rfl <;> exact absurd h (by decide)

/-- A symbol is no separator. -/
theorem isSeparator_of_symbol?_eq_some {c : Char} {kind : Kind} (h : symbol? c = some kind) :
    isSeparator c = false := by
  have key : symbolChars.all (!isSeparator ·) := by decide
  simpa only [Bool.not_eq_true'] using List.all_eq_true.1 key c (mem_of_symbol?_eq_some h)

/-- What is no separator stays. -/
theorem dropSeparators_cons_of_not {c : Char} (h : isSeparator c = false) (cs : List Char) :
    dropSeparators (c :: cs) = c :: dropSeparators cs :=
  List.filter_cons_of_pos (by rw [h]; rfl)

/-- Separators are dropped from one part after the other. -/
theorem dropSeparators_append (xs ys : List Char) :
    dropSeparators (xs ++ ys) = dropSeparators xs ++ dropSeparators ys :=
  List.filter_append ..

/-- Dropping separators keeps points. -/
theorem contains_point_dropSeparators (cs : List Char) :
    (dropSeparators cs).contains '.' = cs.contains '.' := by
  rw [Bool.eq_iff_iff, List.contains_iff_mem, List.contains_iff_mem, dropSeparators,
    List.mem_filter]
  exact and_iff_left (by decide)

/-- A literal ends where it did. -/
theorem splitLiteral_dropSeparators {pointSeen : Bool} {cs : List Char}
    (h : splitLiteral pointSeen cs = (cs, [])) :
    splitLiteral pointSeen (dropSeparators cs) = (dropSeparators cs, []) := by
  induction cs generalizing pointSeen with
  | nil => exact h
  | cons c cs ih =>
    rw [splitLiteral_cons] at h
    split_ifs at h with hc
    swap
    · cases h
    have hcs : splitLiteral (pointSeen || c == '.') cs = (cs, []) := by
      simpa [Prod.ext_iff] using h
    cases hseparator : isSeparator c with
    | true =>
      have hpoint : (c == '.') = false := beq_false_of_ne (by rintro rfl; cases hseparator)
      rw [hpoint, Bool.or_false] at hcs
      rw [dropSeparators, List.filter_cons_of_neg (by rw [hseparator]; decide)]
      exact ih hcs
    | false =>
      rw [dropSeparators_cons_of_not hseparator, splitLiteral_cons, if_pos hc, ih hcs]

/-- Dropping separators keeps the value of a literal. -/
theorem literalValue?_dropSeparators (cs : List Char) :
    literalValue? (dropSeparators cs) = literalValue? cs := by
  have htwice : dropSeparators (dropSeparators cs) = dropSeparators cs := by
    rw [dropSeparators, dropSeparators, List.filter_filter]
    simp only [Bool.and_self]
  rw [literalValue?, literalValue?, htwice]

/-- Dropping separators leaves a lexeme of the same kind. -/
theorem Lexeme.dropSeparators {kind : Kind} {raw : List Char} (h : Lexeme kind raw) :
    Lexeme kind (dropSeparators raw) := by
  cases h with
  | power => exact .power
  | symbol hsymbol =>
    rw [dropSeparators_cons_of_not (isSeparator_of_symbol?_eq_some hsymbol)]
    exact .symbol hsymbol
  | literal hstart hcs hvalue =>
    have hseparator := isSeparator_of_isLiteralStart hstart
    rw [← literalValue?_dropSeparators, dropSeparators_cons_of_not hseparator] at hvalue
    rw [dropSeparators_cons_of_not hseparator]
    exact .literal hstart (splitLiteral_dropSeparators hcs) hvalue

/-- Dropping separators keeps how a lexeme grows. -/
theorem Lexeme.grows_dropSeparators {kind : Kind} {raw : List Char} (h : Lexeme kind raw)
    (c : Char) : grows (Token.dropSeparators raw) c = grows raw c := by
  cases h with
  | power => rfl
  | symbol hsymbol =>
    rw [dropSeparators_cons_of_not (isSeparator_of_symbol?_eq_some hsymbol)]
    rfl
  | literal hstart hcs hvalue =>
    rw [dropSeparators_cons_of_not (isSeparator_of_isLiteralStart hstart), grows_literal hstart,
      grows_literal hstart, contains_point_dropSeparators]

/-- No text that is read begins with a separator. -/
theorem Scans.head?_dropSeparators {start : ℕ} {cs : List Char} {tokens : List Token}
    (h : Scans start cs tokens) : (Token.dropSeparators cs).head? = cs.head? := by
  cases h with
  | nil => rfl
  | blank hblank _ => rw [dropSeparators_cons_of_not (isSeparator_of_isBlank hblank)]; rfl
  | token hlexeme _ _ =>
    cases hlexeme with
    | power => rfl
    | symbol hsymbol =>
      rw [List.cons_append, dropSeparators_cons_of_not (isSeparator_of_symbol?_eq_some hsymbol)]
      rfl
    | literal hstart _ _ =>
      rw [List.cons_append, dropSeparators_cons_of_not (isSeparator_of_isLiteralStart hstart)]
      rfl

/-- **A text without its separators has the same tokens**, spellings and places aside. -/
theorem Scans.exists_dropSeparators {start : ℕ} {cs : List Char} {tokens : List Token}
    (h : Scans start cs tokens) (start' : ℕ) :
    ∃ read, Scans start' (Token.dropSeparators cs) read ∧
      read.map Token.kind = tokens.map Token.kind := by
  induction h generalizing start' with
  | nil => exact ⟨[], .nil, rfl⟩
  | blank hblank _ ih =>
    obtain ⟨read, hscans, hread⟩ := ih (start' + 1)
    rw [dropSeparators_cons_of_not (isSeparator_of_isBlank hblank)]
    exact ⟨read, .blank hblank hscans, hread⟩
  | @token start kind raw rest tokens hlexeme hends hrest ih =>
    obtain ⟨read, hscans, hread⟩ := ih (start' + (Token.dropSeparators raw).length)
    have hends' : Ends (Token.dropSeparators raw) (Token.dropSeparators rest) := by
      intro c hc
      rw [hrest.head?_dropSeparators] at hc
      rw [hlexeme.grows_dropSeparators]
      exact hends c hc
    rw [dropSeparators_append]
    exact ⟨_, .token hlexeme.dropSeparators hends' hscans, congrArg (kind :: ·) hread⟩

/-! ### Trees -/

/-- Texts that differ from each other in blanks and separators only, as long as they are scanned. -/
inductive Respaced : String → String → Prop
  | spread {source : String} {tokens : List Token} {last : Token} {gap : ℕ → List Char} :
      scan source = .ok (tokens ++ [last]) → Gaps tokens.length gap →
        Respaced source (String.ofList (spread gap (tokens.map fun token => token.raw.toList)))
  | dropSeparators (source : String) :
      Respaced source (String.ofList (dropSeparators source.toList))
  | trans {source between other : String} : Respaced source between → Respaced between other →
      Respaced source other

/-- Texts that are read as trees of one shape and with the same numbers, or not at all, with the
same message. -/
def ReadAlike (source other : String) : Prop :=
  (∃ d e, Expr.ofText source = .ok d ∧ Expr.ofText other = .ok e ∧ Expr.Matches (· = ·) d e) ∨
    ∃ a b message, Expr.ofText source = .error (.parse a) ∧ Expr.ofText other = .error (.parse b) ∧
      (∃ span, a.report? source = some ⟨.syntactic, message, span, source⟩) ∧
      ∃ span, b.report? other = some ⟨.syntactic, message, span, other⟩

/-- A text ends in an end token. -/
theorem content_of_last {source : String} {tokens : List Token} {last : Token}
    (h : scan source = .ok (tokens ++ [last])) : last.kind = .finish ∧ last.raw = "" := by
  rw [(scan_concat_iff.1 h).2]
  exact ⟨rfl, rfl⟩

/-- **Tokens with other gaps are read as the same tokens.** -/
theorem scan_spread {source : String} {tokens : List Token} {last : Token}
    (h : scan source = .ok (tokens ++ [last])) {gap : ℕ → List Char}
    (hgap : Gaps tokens.length gap) :
    ∃ read finish, scan (String.ofList (spread gap (tokens.map fun token => token.raw.toList))) =
        .ok (read ++ [finish]) ∧
      read.map (fun token => (token.kind, token.raw)) =
        tokens.map fun token => (token.kind, token.raw) := by
  obtain ⟨read, hread, hsame⟩ := exists_scans_spread (scan_concat_iff.1 h).1.lexeme hgap 0
  exact ⟨read, _, scan_concat_iff.2 ⟨by rwa [String.toList_ofList], rfl⟩, hsame⟩

/-- **Tokens without separators are read as tokens of the same kinds.** -/
theorem scan_dropSeparators {source : String} {tokens : List Token} {last : Token}
    (h : scan source = .ok (tokens ++ [last])) :
    ∃ read finish, scan (String.ofList (dropSeparators source.toList)) = .ok (read ++ [finish]) ∧
      read.map kind = tokens.map kind := by
  obtain ⟨read, hread, hsame⟩ := (scan_concat_iff.1 h).1.exists_dropSeparators 0
  exact ⟨read, _, scan_concat_iff.2 ⟨by rwa [String.toList_ofList], rfl⟩, hsame⟩

/-- The tokens of a text stay of their kinds. -/
theorem Respaced.exists_scan {source other : String} (h : Respaced source other)
    {tokens : List Token} {last : Token} (hscan : scan source = .ok (tokens ++ [last])) :
    ∃ read finish, scan other = .ok (read ++ [finish]) ∧ read.map kind = tokens.map kind := by
  induction h generalizing tokens last with
  | spread hsource hgap =>
    obtain ⟨rfl, -⟩ := List.append_inj' (Except.ok.inj (hsource.symm.trans hscan)) rfl
    obtain ⟨read, finish, hread, hsame⟩ := scan_spread hsource hgap
    refine ⟨read, finish, hread, ?_⟩
    simpa only [List.map_map, Function.comp_def] using congrArg (List.map Prod.fst) hsame
  | dropSeparators =>
    exact scan_dropSeparators hscan
  | trans _ _ ih ih' =>
    obtain ⟨between, _, hbetween, hsame⟩ := ih hscan
    obtain ⟨read, finish, hread, hsame'⟩ := ih' hbetween
    exact ⟨read, finish, hread, hsame'.trans hsame⟩

/-- **Texts whose tokens are of the same kinds are read alike.** -/
theorem readAlike_of_scan {source other : String} {tokens tokens' : List Token} {last last' : Token}
    (h : scan source = .ok (tokens ++ [last])) (h' : scan other = .ok (tokens' ++ [last']))
    (hkinds : tokens.map kind = tokens'.map kind) : ReadAlike source other := by
  have hlast := (content_of_last h).1
  have hlast' := (content_of_last h').1
  have hsource : Expr.ofText source = (Expr.ofTokens (tokens ++ [last])).mapError .parse := by
    rw [Expr.ofText, h]
    rfl
  have hother : Expr.ofText other = (Expr.ofTokens (tokens' ++ [last'])).mapError .parse := by
    rw [Expr.ofText, h']
    rfl
  obtain ⟨d, e, hd, he, hmatches⟩ | ⟨a, b, ha, hb, hwording⟩ :=
    Expr.ofTokens_similar hlast hlast' hkinds
  · exact .inl ⟨d, e, by rw [hsource, hd]; rfl, by rw [hother, he]; rfl, hmatches⟩
  · obtain ⟨message, hmessage⟩ := ParseError.exists_report fun h =>
      Expr.ofTokens_ne_outOfTokens tokens hlast Expr.nestingLimit (h ▸ ha)
    obtain ⟨message', hmessage'⟩ := ParseError.exists_report fun h =>
      Expr.ofTokens_ne_outOfTokens tokens' hlast' Expr.nestingLimit (h ▸ hb)
    obtain ⟨span, hspan⟩ := hmessage source
    obtain ⟨span', hspan'⟩ := hmessage' other
    have hsame := hwording source other
    rw [hspan, hspan'] at hsame
    obtain rfl : message = message' := Option.some.inj hsame
    exact .inr ⟨a, b, message, by rw [hsource, ha]; rfl, by rw [hother, hb]; rfl, ⟨span, hspan⟩,
      span', hspan'⟩

/-- **Blanks and separators do not matter.** The tokens of a text are those of the text with any
blanks around them, if there are some between any two, and spellings aside those of the text without
separators. Whatever texts come out of one by such changes are read as trees of one shape with the
same numbers, or fail with the same message. -/
theorem scan_respaced {source : String} {tokens : List Token} {last : Token}
    (h : scan source = .ok (tokens ++ [last])) :
    (∀ gap, Gaps tokens.length gap →
      ∃ read, scan (String.ofList (spread gap (tokens.map fun token => token.raw.toList))) =
          .ok read ∧
        read.map (fun token => (token.kind, token.raw)) =
          (tokens ++ [last]).map fun token => (token.kind, token.raw)) ∧
      (∃ read, scan (String.ofList (dropSeparators source.toList)) = .ok read ∧
        read.map kind = (tokens ++ [last]).map kind) ∧
      ∀ other, Respaced source other → ReadAlike source other := by
  refine ⟨fun gap hgap => ?_, ?_, fun other hother => ?_⟩
  · obtain ⟨read, finish, hread, hsame⟩ := scan_spread h hgap
    refine ⟨_, hread, ?_⟩
    rw [List.map_append, List.map_append, hsame, List.map_singleton, List.map_singleton,
      (content_of_last hread).1, (content_of_last hread).2, (content_of_last h).1,
      (content_of_last h).2]
  · obtain ⟨read, finish, hread, hsame⟩ := scan_dropSeparators h
    refine ⟨_, hread, ?_⟩
    rw [List.map_append, List.map_append, hsame, List.map_singleton, List.map_singleton,
      (content_of_last hread).1, (content_of_last h).1]
  · obtain ⟨read, finish, hread, hsame⟩ := hother.exists_scan h
    exact readAlike_of_scan h hread hsame.symm

/-- Three stars in a row, and a separator. -/
theorem scan_respaced_stars :
    let tokens : List Token := [
      ⟨.number ⟨false, 2, 0⟩, "2", ⟨0, 1⟩⟩, ⟨.operator "**", "**", ⟨1, 3⟩⟩,
      ⟨.operator "*", "*", ⟨3, 4⟩⟩, ⟨.number ⟨false, 10, 0⟩, "1,0", ⟨4, 7⟩⟩]
    let last : Token := ⟨.finish, "", ⟨7, 7⟩⟩
    scan "2***1,0" = .ok (tokens ++ [last]) ∧
      (∃ read, scan "2 ** * 1,0 " = .ok read ∧
        read.map (fun token => (token.kind, token.raw)) =
          (tokens ++ [last]).map fun token => (token.kind, token.raw)) ∧
      ReadAlike "2***1,0" "2***10" := by
  intro tokens last
  have hscan : scan "2***1,0" = .ok (tokens ++ [last]) := by decide +kernel
  obtain ⟨hspread, -, halike⟩ := scan_respaced hscan
  let gap (i : ℕ) : List Char := if i = 0 then [] else [' ']
  have hgap : Gaps tokens.length gap :=
    { isBlank := fun i c hc => by
        by_cases hi : i = 0
        · simp [gap, hi] at hc
        · obtain rfl : c = ' ' := by simpa [gap, hi] using hc
          decide
      ne_nil := fun i hi _ => by simp [gap, hi.ne'] }
  have hspaced := hspread gap hgap
  have hplain := halike _ (.dropSeparators _)
  rw [show String.ofList (spread gap (tokens.map fun token => token.raw.toList)) = "2 ** * 1,0 " by
    decide +kernel] at hspaced
  rw [show String.ofList (dropSeparators "2***1,0".toList) = "2***10" by decide +kernel] at hplain
  exact ⟨hscan, hspaced, hplain⟩

end Token
end Reckoner
