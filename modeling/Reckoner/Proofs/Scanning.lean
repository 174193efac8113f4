/-
# The lexical grammar

A text is read as blanks and lexemes (`Token.Scans`), where a lexeme is a piece that is a token by
itself (`Token.Lexeme`) and the character behind it is none by which it could grow (`Token.grows`).
This relation and `Token.scan` say the same (`scan_eq_ok_iff`), and the relation makes plain that
reading is local: a text may begin at any token (`Scans.skip`) and end behind any (`Scans.take`),
and where it begins does not matter (`Scans.move`). A parenthesis is a lexeme and no part of
another, so a text is cut at any two of them (`scans_parentheses_iff`).
-/

import Mathlib.Tactic.Linarith
import Reckoner.Proofs.Digits
import Reckoner.Token

namespace Reckoner

/-- A span further on. -/
def Span.move (k : ℤ) (span : Span) : Span := ⟨span.start + k, span.stop + k⟩

namespace Token

/-- The same token further on. -/
def move (k : ℤ) (token : Token) : Token := { token with span := token.span.move k }

/-! ### Literals -/

/-- Whether a literal goes on with `c`. -/
def continues (pointSeen : Bool) (c : Char) : Bool := (c == '.' && !pointSeen) || isLiteralPart c

/-- The point is no part of a literal by itself. -/
theorem not_isLiteralPart_point : isLiteralPart '.' = false := by decide

/-- A literal goes on with a character or ends in front of it. -/
theorem splitLiteral_cons (pointSeen : Bool) (c : Char) (cs : List Char) :
    splitLiteral pointSeen (c :: cs) =
      if continues pointSeen c then
        (c :: (splitLiteral (pointSeen || c == '.') cs).1,
          (splitLiteral (pointSeen || c == '.') cs).2)
      else ([], c :: cs) := by
  rw [splitLiteral, continues]
  by_cases hc : c = '.'
  · subst hc
    cases pointSeen <;> simp [not_isLiteralPart_point]
  · simp [beq_false_of_ne hc]

/-- A literal ends where it cannot go on. -/
theorem splitLiteral_append_iff (pointSeen : Bool) (cs rest : List Char) :
    splitLiteral pointSeen (cs ++ rest) = (cs, rest) ↔
      splitLiteral pointSeen cs = (cs, []) ∧
        ∀ c ∈ rest.head?, continues (pointSeen || cs.contains '.') c = false := by
  induction cs generalizing pointSeen with
  | nil =>
    cases rest with
    | nil => simp [splitLiteral]
    | cons c rest =>
      rw [List.nil_append, splitLiteral_cons]
      cases h : continues pointSeen c <;> simp [splitLiteral, h]
  | cons c cs ih =>
    have hstate : (pointSeen || (c :: cs).contains '.') =
        (pointSeen || c == '.' || cs.contains '.') := by
      rw [List.contains_cons, Bool.or_assoc, Bool.beq_comm]
    rw [List.cons_append, splitLiteral_cons, splitLiteral_cons, hstate]
    cases continues pointSeen c with
    | false => simp
    | true => simpa [Prod.ext_iff] using ih (pointSeen || c == '.')

/-! ### Lexemes -/

/-- A piece of text that is a token by itself. -/
inductive Lexeme : Kind → List Char → Prop
  | power : Lexeme (.operator "**") ['*', '*']
  | symbol {c : Char} {kind : Kind} : symbol? c = some kind → Lexeme kind [c]
  | literal {c : Char} {cs : List Char} {value : Decimal} : isLiteralStart c →
      splitLiteral (c == '.') cs = (cs, []) → literalValue? (c :: cs) = some value →
        Lexeme (.number value) (c :: cs)

/-- Whether the piece `raw` is longer if `c` comes next. -/
def grows (raw : List Char) (c : Char) : Bool :=
  (raw == ['*'] && c == '*') || (raw.head?.any isLiteralStart && continues (raw.contains '.') c)

/-- Whether the longest token at the start of `raw ++ rest` is `raw`. -/
def Ends (raw rest : List Char) : Prop := ∀ c ∈ rest.head?, grows raw c = false

/-- A token ends at the end of the text. -/
theorem ends_nil (raw : List Char) : Ends raw [] := fun _ h => absurd h (by simp)

/-- What matters to the end of a token is the character behind it. -/
theorem Ends.of_append {raw xs ys : List Char} (h : Ends raw (xs ++ ys)) : Ends raw xs := by
  cases xs with
  | nil => exact ends_nil raw
  | cons x xs => exact h

/-- A text of blanks and lexemes, and the tokens that it holds from an offset on. -/
inductive Scans : ℕ → List Char → List Token → Prop
  | nil {start : ℕ} : Scans start [] []
  | blank {start : ℕ} {c : Char} {cs : List Char} {tokens : List Token} : Text.isBlank c →
      Scans (start + 1) cs tokens → Scans start (c :: cs) tokens
  | token {start : ℕ} {kind : Kind} {raw rest : List Char} {tokens : List Token} :
      Lexeme kind raw → Ends raw rest → Scans (start + raw.length) rest tokens →
        Scans start (raw ++ rest) (place kind raw start :: tokens)

/-! ### What kind of character a piece begins with -/

/-- A symbol is an operator or a parenthesis. -/
theorem symbol?_cases {c : Char} {kind : Kind} (h : symbol? c = some kind) :
    kind = .operator c.toString ∨ kind = .opening ∧ c = '(' ∨ kind = .closing ∧ c = ')' := by
  rw [symbol?] at h
  split_ifs at h with h₁ h₂ h₃ <;> cases h
  · exact .inl rfl
  · exact .inr (.inl ⟨rfl, h₂⟩)
  · exact .inr (.inr ⟨rfl, h₃⟩)

/-- The characters that are tokens. -/
def symbolChars : List Char := ['+', '-', '*', '/', '%', '^', '(', ')']

/-- What is read as a symbol is one. -/
theorem mem_of_symbol?_eq_some {c : Char} {kind : Kind} (h : symbol? c = some kind) :
    c ∈ symbolChars := by
  rw [symbol?] at h
  split_ifs at h with h₁ h₂ h₃
  · simp only [symbolChars, List.mem_cons] at h₁ ⊢
    tauto
  · subst h₂; decide
  · subst h₃; decide

/-- No symbol is a blank. -/
theorem isBlank_of_symbol?_eq_some {c : Char} {kind : Kind} (h : symbol? c = some kind) :
    Text.isBlank c = false := by
  have key : symbolChars.all (!Text.isBlank ·) := by decide
  simpa only [Bool.not_eq_true'] using List.all_eq_true.1 key c (mem_of_symbol?_eq_some h)

/-- No symbol begins a literal. -/
theorem isLiteralStart_of_symbol?_eq_some {c : Char} {kind : Kind} (h : symbol? c = some kind) :
    isLiteralStart c = false := by
  have key : symbolChars.all (!isLiteralStart ·) := by decide
  simpa only [Bool.not_eq_true'] using List.all_eq_true.1 key c (mem_of_symbol?_eq_some h)

/-- The code points of digits. -/
theorem toNat_of_isDigit {c : Char} (h : Decimal.isDigit c) : 48 ≤ c.toNat ∧ c.toNat ≤ 57 := by
  rw [Decimal.isDigit, Bool.and_eq_true, decide_eq_true_eq, decide_eq_true_eq] at h
  exact h

/-- What begins a literal is no blank. -/
theorem isBlank_of_isLiteralStart {c : Char} (h : isLiteralStart c) : Text.isBlank c = false := by
  rw [isLiteralStart, Bool.or_eq_true, beq_iff_eq] at h
  rcases h with h | rfl
  · have := toNat_of_isDigit h
    simp only [Text.isBlank, Text.Ranges.contains, Text.blankRanges, List.any_cons, List.any_nil,
      Bool.or_false, Bool.or_eq_false_iff, Bool.and_eq_false_iff, decide_eq_false_iff_not]
    omega
  · decide

/-- A star is no blank. -/
theorem ne_star_of_isBlank {c : Char} (h : Text.isBlank c) : c ≠ '*' := by
  rintro rfl
  exact absurd h (by decide)

/-- A star begins no literal. -/
theorem ne_star_of_isLiteralStart {c : Char} (h : isLiteralStart c) : c ≠ '*' := by
  rintro rfl
  exact absurd h (by decide)

/-- Two stars do not grow. -/
theorem grows_power (c : Char) : grows ['*', '*'] c = false := rfl

/-- Of the symbols only a star grows, by another one. -/
theorem grows_symbol {c : Char} {kind : Kind} (h : symbol? c = some kind) (d : Char) :
    grows [c] d = (c == '*' && d == '*') := by
  rw [grows, List.head?_cons, Option.any_some, isLiteralStart_of_symbol?_eq_some h,
    Bool.false_and, Bool.or_false, List.cons_beq_cons, beq_self_eq_true,
    Bool.and_true]

/-- A literal grows as it goes on. -/
theorem grows_literal {c : Char} (h : isLiteralStart c) (cs : List Char) (d : Char) :
    grows (c :: cs) d = continues (c == '.' || cs.contains '.') d := by
  have hstar : (c :: cs == ['*']) = false :=
    beq_false_of_ne fun he => ne_star_of_isLiteralStart h (List.cons.inj he).1
  rw [grows, hstar, Bool.false_and, Bool.false_or, List.head?_cons, Option.any_some, h,
    Bool.true_and, List.contains_cons, Bool.beq_comm]

/-! ### Scanning and the grammar -/

/-- A blank is passed over. -/
theorem scanFrom_blank {c : Char} (h : Text.isBlank c) (done : List Token) (start : ℕ)
    (cs : List Char) : scanFrom done start (c :: cs) = scanFrom done (start + 1) cs := by
  rw [scanFrom, if_pos h]
  exact fun _ hc => absurd hc (ne_star_of_isBlank h)

/-- A literal is scanned as a whole, whether or not it writes a number. -/
theorem scanFrom_literal {c : Char} {cs rest : List Char} (hstart : isLiteralStart c)
    (hcs : splitLiteral (c == '.') cs = (cs, [])) (hends : Ends (c :: cs) rest)
    (done : List Token) (start : ℕ) : scanFrom done start (c :: cs ++ rest) =
      (literalValue? (c :: cs)).elim (.error ⟨.invalidNumber, ⟨start, start + (c :: cs).length⟩⟩)
        fun value => scanFrom (place (.number value) (c :: cs) start :: done)
          (start + (c :: cs).length) rest := by
  have hsplit : splitLiteral (c == '.') (cs ++ rest) = (cs, rest) :=
    (splitLiteral_append_iff _ cs rest).2 ⟨hcs, fun d hd => grows_literal hstart cs d ▸ hends d hd⟩
  rw [List.cons_append, scanFrom, isBlank_of_isLiteralStart hstart, if_pos hstart, hsplit]
  · simp only [Bool.false_eq_true, if_false]
    cases literalValue? (c :: cs) <;> rfl
  · exact fun _ hc => absurd hc (ne_star_of_isLiteralStart hstart)

/-- **A lexeme that ends is read** as a token, and reading goes on behind it. -/
theorem scanFrom_lexeme {kind : Kind} {raw rest : List Char} (h : Lexeme kind raw)
    (hends : Ends raw rest) (done : List Token) (start : ℕ) :
    scanFrom done start (raw ++ rest) =
      scanFrom (place kind raw start :: done) (start + raw.length) rest := by
  cases h with
  | power => rw [List.cons_append, List.cons_append, scanFrom]; rfl
  | @symbol c kind hsymbol =>
    rw [List.cons_append, List.nil_append, scanFrom, isBlank_of_symbol?_eq_some hsymbol,
      isLiteralStart_of_symbol?_eq_some hsymbol, hsymbol]
    · rfl
    · rintro cs rfl rfl
      exact absurd (hends '*' rfl) (by decide)
  | literal hstart hcs hvalue => rw [scanFrom_literal hstart hcs hends, hvalue, Option.elim_some]

/-- **What the grammar reads is scanned.** -/
theorem Scans.scanFrom_eq {start : ℕ} {cs : List Char} {tokens : List Token}
    (h : Scans start cs tokens) (done : List Token) :
    scanFrom done start cs =
      .ok (done.reverse ++ tokens ++ [place .finish [] (start + cs.length)]) := by
  induction h generalizing done with
  | nil => rw [scanFrom]; simp
  | blank hblank _ ih => rw [scanFrom_blank hblank, ih, List.length_cons, Nat.add_right_comm]; rfl
  | token hlexeme hends _ ih =>
    rw [scanFrom_lexeme hlexeme hends, ih, List.length_append, Nat.add_assoc]
    simp

/-- The outcome `tokens` of scanning `cs` from `start` on behind the tokens `done`. -/
def Scanned (done : List Token) (start : ℕ) (cs : List Char) (tokens : List Token) : Prop :=
  ∃ read, Scans start cs read ∧
    tokens = done.reverse ++ read ++ [place .finish [] (start + cs.length)]

/-- Tokens may be read behind a lexeme that ends. -/
theorem Scanned.lexeme {done tokens : List Token} {start : ℕ} {kind : Kind} {raw rest : List Char}
    (hlexeme : Lexeme kind raw) (hends : Ends raw rest)
    (h : Scanned (place kind raw start :: done) (start + raw.length) rest tokens) :
    Scanned done start (raw ++ rest) tokens := by
  obtain ⟨read, hread, rfl⟩ := h
  refine ⟨_, .token hlexeme hends hread, ?_⟩
  rw [List.length_append, Nat.add_assoc]
  simp

/-- **What is scanned, the grammar reads.** -/
theorem scanned_of_scanFrom {done tokens : List Token} {start : ℕ} {cs : List Char}
    (h : scanFrom done start cs = .ok tokens) : Scanned done start cs tokens := by
  fun_induction scanFrom done start cs with
  | case1 =>
    cases h
    exact ⟨[], .nil, by simp⟩
  | case2 done start cs ih => exact .lexeme .power (fun c _ => grows_power c) (ih h)
  | case3 done start c cs _ hblank ih =>
    obtain ⟨read, hread, rfl⟩ := ih h
    exact ⟨read, .blank hblank hread, by rw [List.length_cons, Nat.add_right_comm]; rfl⟩
  | case4 => cases h
  | case5 done start c cs _ _ hstart split literal value hvalue ih =>
    have hsplit : splitLiteral (c == '.') (split.1 ++ split.2) = (split.1, split.2) := by
      rw [splitLiteral_append]
    obtain ⟨hcs, hends⟩ := (splitLiteral_append_iff _ split.1 split.2).1 hsplit
    have hcut : c :: cs = literal ++ split.2 := by
      rw [List.cons_append, splitLiteral_append]
    rw [hcut]
    exact .lexeme (.literal hstart hcs hvalue)
      (fun d hd => (grows_literal hstart split.1 d).trans (hends d hd)) (ih h)
  | case6 => cases h
  | case7 done start c cs hstar _ _ kind hsymbol ih =>
    have hends : Ends [c] cs := by
      intro d hd
      obtain ⟨cs', rfl⟩ := List.head?_eq_some_iff.1 hd
      rw [grows_symbol hsymbol, Bool.and_eq_false_iff, beq_eq_false_iff_ne, beq_eq_false_iff_ne]
      by_contra! hne
      exact hstar cs' hne.1 (by rw [hne.2])
    exact .lexeme (.symbol hsymbol) hends (ih h)

/-- A text is read in one way. -/
theorem Scans.unique {start : ℕ} {cs : List Char} {tokens tokens' : List Token}
    (h : Scans start cs tokens) (h' : Scans start cs tokens') : tokens = tokens' := by
  have heq := (h.scanFrom_eq []).symm.trans (h'.scanFrom_eq [])
  exact List.append_cancel_right (Except.ok.inj heq)

/-- **Scanning is reading by the grammar.** -/
theorem scan_eq_ok_iff {source : String} {tokens : List Token} :
    scan source = .ok tokens ↔ ∃ read, Scans 0 source.toList read ∧
      tokens = read ++ [place .finish [] source.toList.length] := by
  constructor
  · intro h
    obtain ⟨read, hread, htokens⟩ := scanned_of_scanFrom h
    exact ⟨read, hread, by simpa using htokens⟩
  · rintro ⟨read, hread, rfl⟩
    simpa [scan] using hread.scanFrom_eq []

/-- The tokens of a text, up to the one at the end, are those that the grammar reads. -/
theorem scan_concat_iff {source : String} {tokens : List Token} {last : Token} :
    scan source = .ok (tokens ++ [last]) ↔
      Scans 0 source.toList tokens ∧ last = place .finish [] source.toList.length := by
  rw [scan_eq_ok_iff]
  constructor
  · rintro ⟨read, hread, heq⟩
    obtain ⟨rfl, hlast⟩ := List.append_inj' heq rfl
    exact ⟨hread, List.singleton_inj.1 hlast⟩
  · rintro ⟨hread, rfl⟩
    exact ⟨tokens, hread, rfl⟩

/-! ### Reading is local -/

/-- No lexeme is empty. -/
theorem Lexeme.length_pos {kind : Kind} {raw : List Char} (h : Lexeme kind raw) :
    0 < raw.length := by
  cases h <;> exact Nat.succ_pos _

/-- **A text may begin at any of its tokens.** -/
theorem Scans.skip {start : ℕ} {cs : List Char} {before after : List Token} {token : Token}
    (h : Scans start cs (before ++ token :: after)) :
    ∃ xs ys, cs = xs ++ ys ∧ token.span.start = start + xs.length ∧
      Scans (start + xs.length) ys (token :: after) := by
  generalize htokens : before ++ token :: after = tokens at h
  induction h generalizing before with
  | nil => exact absurd htokens (by simp)
  | @blank start c cs tokens hblank h ih =>
    obtain ⟨xs, ys, rfl, hstart, hys⟩ := ih htokens
    refine ⟨c :: xs, ys, rfl, ?_, ?_⟩
    · rw [hstart, List.length_cons]; push_cast; ring
    · rwa [List.length_cons, Nat.add_comm xs.length, ← Nat.add_assoc]
  | @token start kind raw rest tokens hlexeme hends h ih =>
    cases before with
    | nil =>
      obtain ⟨rfl, rfl⟩ := List.cons.inj htokens
      exact ⟨[], raw ++ rest, rfl, by simp [place], .token hlexeme hends h⟩
    | cons b before =>
      obtain ⟨xs, ys, rfl, hstart, hys⟩ := ih (List.cons.inj htokens).2
      refine ⟨raw ++ xs, ys, (List.append_assoc ..).symm, ?_, ?_⟩
      · rw [hstart, List.length_append]; push_cast; ring
      · rwa [List.length_append, ← Nat.add_assoc]

/-- **A text may end behind any of its tokens.** -/
theorem Scans.take {start : ℕ} {cs : List Char} {before after : List Token}
    (h : Scans start cs (before ++ after)) (hne : before ≠ []) :
    ∃ xs ys, cs = xs ++ ys ∧ (before.getLast hne).span.stop = start + xs.length ∧
      Scans start xs before := by
  generalize htokens : before ++ after = tokens at h
  induction h generalizing before with
  | nil => exact absurd (List.append_eq_nil_iff.1 htokens).1 hne
  | @blank start c cs tokens hblank h ih =>
    obtain ⟨xs, ys, rfl, hstop, hxs⟩ := ih hne htokens
    refine ⟨c :: xs, ys, rfl, ?_, .blank hblank hxs⟩
    rw [hstop, List.length_cons]; push_cast; ring
  | @token start kind raw rest tokens hlexeme hends h ih =>
    obtain ⟨b, before, rfl⟩ := List.exists_cons_of_ne_nil hne
    obtain ⟨rfl, hrest⟩ := List.cons.inj htokens
    cases before with
    | nil =>
      have hraw : Scans start (raw ++ []) [place kind raw start] :=
        .token hlexeme (ends_nil raw) .nil
      rw [List.append_nil] at hraw
      exact ⟨raw, rest, rfl, by simp [place], hraw⟩
    | cons b' before =>
      obtain ⟨xs, ys, rfl, hstop, hxs⟩ := ih (List.cons_ne_nil b' before) hrest
      refine ⟨raw ++ xs, ys, (List.append_assoc ..).symm, ?_, .token hlexeme hends.of_append hxs⟩
      rw [List.getLast_cons_cons, hstop, List.length_append]; push_cast; ring

/-- A literal goes on over digits, separators and points only. -/
theorem mem_splitLiteral {pointSeen : Bool} {cs : List Char} {c : Char}
    (h : c ∈ (splitLiteral pointSeen cs).1) : c = '.' ∨ isLiteralPart c := by
  induction cs generalizing pointSeen with
  | nil => cases h
  | cons d cs ih =>
    rw [splitLiteral_cons] at h
    split_ifs at h with hd
    · obtain rfl | h := List.mem_cons.1 h
      · rw [continues, Bool.or_eq_true, Bool.and_eq_true, beq_iff_eq] at hd
        exact hd.imp_left And.left
      · exact ih h
    · cases h

/-- The characters of lexemes are symbols, points and parts of literals. -/
theorem Lexeme.mem_cases {kind : Kind} {raw : List Char} (h : Lexeme kind raw) {c : Char}
    (hc : c ∈ raw) : c ∈ symbolChars ∨ c = '.' ∨ isLiteralPart c := by
  cases h with
  | power =>
    obtain rfl : c = '*' := by simpa using hc
    exact .inl (by decide)
  | symbol hsymbol => exact .inl (List.mem_singleton.1 hc ▸ mem_of_symbol?_eq_some hsymbol)
  | @literal d cs value hstart hcs hvalue =>
    obtain rfl | hc := List.mem_cons.1 hc
    · rw [isLiteralStart, Bool.or_eq_true, beq_iff_eq] at hstart
      exact .inr (hstart.symm.imp_right fun hdigit => by
        rw [isLiteralPart, hdigit, Bool.true_or])
    · exact .inr (mem_splitLiteral (hcs.symm ▸ hc : c ∈ (splitLiteral (d == '.') cs).1))

/-- The characters of a text that is read. -/
theorem Scans.mem_cases {start : ℕ} {cs : List Char} {tokens : List Token}
    (h : Scans start cs tokens) {c : Char} (hc : c ∈ cs) :
    Text.isBlank c ∨ c ∈ symbolChars ∨ c = '.' ∨ isLiteralPart c := by
  induction h with
  | nil => cases hc
  | blank hblank _ ih =>
    obtain rfl | hc := List.mem_cons.1 hc
    · exact .inl hblank
    · exact ih hc
  | token hlexeme _ _ ih =>
    obtain hc | hc := List.mem_append.1 hc
    · exact .inr (hlexeme.mem_cases hc)
    · exact ih hc

/-- A character that is a token by itself is in no other, stars aside. -/
theorem Lexeme.eq_of_mem {kind : Kind} {raw : List Char} (h : Lexeme kind raw) {c : Char}
    {kind' : Kind} (hsymbol : symbol? c = some kind') (hstar : c ≠ '*') (hc : c ∈ raw) :
    raw = [c] ∧ kind = kind' := by
  cases h with
  | power => exact absurd (by simpa using hc) hstar
  | symbol hsymbol' =>
    obtain rfl := List.mem_singleton.1 hc
    exact ⟨rfl, Option.some.inj (hsymbol'.symm.trans hsymbol)⟩
  | @literal d cs value hstart hcs hvalue =>
    have hmem := mem_of_symbol?_eq_some hsymbol
    obtain rfl | hc := List.mem_cons.1 hc
    · cases (isLiteralStart_of_symbol?_eq_some hsymbol).symm.trans hstart
    · have key : symbolChars.all fun x => !(x == '.' || isLiteralPart x) := by decide
      have hnot := List.all_eq_true.1 key c hmem
      have hpart := mem_splitLiteral (hcs.symm ▸ hc : c ∈ (splitLiteral (d == '.') cs).1)
      rw [← beq_iff_eq, ← Bool.or_eq_true] at hpart
      rw [hpart] at hnot
      cases hnot

/-- **A text may be cut at a character that is a token by itself**, unless that is a star. -/
theorem Scans.split {start : ℕ} {xs ys : List Char} {c : Char} {kind : Kind} {tokens : List Token}
    (hsymbol : symbol? c = some kind) (hstar : c ≠ '*') (h : Scans start (xs ++ c :: ys) tokens) :
    ∃ before after, tokens = before ++ place kind [c] (start + xs.length) :: after ∧
      Scans start xs before ∧ Scans (start + xs.length + 1) ys after := by
  generalize hcs : xs ++ c :: ys = cs at h
  induction h generalizing xs with
  | nil => exact absurd hcs (by simp)
  | @blank start d cs tokens hblank h ih =>
    cases xs with
    | nil =>
      obtain ⟨rfl, rfl⟩ := List.cons.inj hcs
      cases (isBlank_of_symbol?_eq_some hsymbol).symm.trans hblank
    | cons x xs =>
      obtain ⟨rfl, hrest⟩ := List.cons.inj hcs
      obtain ⟨before, after, rfl, hbefore, hafter⟩ := ih hrest
      rw [List.length_cons, Nat.add_comm xs.length, ← Nat.add_assoc]
      exact ⟨before, after, rfl, .blank hblank hbefore, hafter⟩
  | @token start kind' raw rest tokens hlexeme hends h ih =>
    -- The character stands behind the first piece, unless it is that piece.
    have hbehind (zs : List Char) (hxs : xs = raw ++ zs) (hrest : zs ++ c :: ys = rest) :
        ∃ before after, place kind' raw start :: tokens =
          before ++ place kind [c] (start + xs.length) :: after ∧ Scans start xs before ∧
            Scans (start + xs.length + 1) ys after := by
      subst hxs hrest
      obtain ⟨before, after, rfl, hbefore, hafter⟩ := ih rfl
      rw [List.length_append, ← Nat.add_assoc]
      exact ⟨place kind' raw start :: before, after, rfl,
        .token hlexeme hends.of_append hbefore, hafter⟩
    obtain ⟨zs, hraw, hrest⟩ | ⟨zs, hxs, hrest⟩ := List.append_eq_append_iff.1 hcs
    · cases zs with
      | nil => exact hbehind [] (by simpa using hraw.symm) hrest
      | cons z zs =>
        obtain ⟨rfl, rfl⟩ := List.cons.inj hrest
        obtain ⟨hone, rfl⟩ := hlexeme.eq_of_mem hsymbol hstar (hraw ▸ by simp)
        obtain ⟨rfl, hzs⟩ | ⟨-, hnil⟩ := List.append_eq_singleton_iff.1 (hraw.symm.trans hone)
        · obtain rfl := (List.cons.inj hzs).2
          rw [hone] at h ⊢
          exact ⟨[], tokens, rfl, .nil, h⟩
        · cases hnil
    · exact hbehind zs hxs hrest.symm

/-- **Where a text begins only moves its tokens.** -/
theorem Scans.move {start : ℕ} {cs : List Char} {tokens : List Token} (h : Scans start cs tokens)
    (start' : ℕ) : Scans start' cs (tokens.map (Token.move (start' - start))) := by
  induction h generalizing start' with
  | nil => exact .nil
  | blank hblank _ ih =>
    have := ih (start' + 1)
    push_cast at this
    rw [add_sub_add_right_eq_sub] at this
    exact .blank hblank this
  | @token start kind raw rest tokens hlexeme hends _ ih =>
    have := ih (start' + raw.length)
    push_cast at this
    rw [add_sub_add_right_eq_sub] at this
    have hplace : (place kind raw start).move (start' - start) = place kind raw start' := by
      simp only [place, Token.move, Span.move, Token.mk.injEq, Span.mk.injEq, true_and]
      constructor <;> ring
    rw [List.map_cons, hplace]
    exact .token hlexeme hends this

/-- Tokens that stand one behind the other. -/
structure InOrder (tokens : List Token) : Prop where
  nonempty : ∀ token ∈ tokens, token.span.start < token.span.stop
  apart : tokens.Pairwise fun a b => a.span.stop ≤ b.span.start

/-- The tokens of a text lie in it, one behind the other. -/
theorem Scans.inOrder {start : ℕ} {cs : List Char} {tokens : List Token}
    (h : Scans start cs tokens) :
    (∀ token ∈ tokens, (start : ℤ) ≤ token.span.start ∧ token.span.stop ≤ start + cs.length) ∧
      InOrder tokens := by
  induction h with
  | nil =>
    exact ⟨fun _ h => absurd h List.not_mem_nil, ⟨fun _ h => absurd h List.not_mem_nil, .nil⟩⟩
  | blank _ _ ih =>
    obtain ⟨hin, horder⟩ := ih
    refine ⟨fun token ht => ?_, horder⟩
    have := hin token ht
    rw [List.length_cons]
    push_cast at this ⊢
    omega
  | @token start kind raw rest tokens hlexeme _ _ ih =>
    obtain ⟨hin, hnonempty, hapart⟩ := ih
    have hpos := hlexeme.length_pos
    refine ⟨fun token ht => ?_, fun token ht => ?_,
      List.pairwise_cons.2 ⟨fun token ht => ?_, hapart⟩⟩
    · rcases List.mem_cons.1 ht with rfl | ht
      · simp only [place, List.length_append]
        push_cast
        omega
      · have := hin token ht
        rw [List.length_append]
        push_cast at this ⊢
        omega
    · rcases List.mem_cons.1 ht with rfl | ht
      · simp only [place]
        omega
      · exact hnonempty token ht
    · have := hin token ht
      simp only [place]
      push_cast at this
      omega

/-! ### The numbers of a text -/

/-- A literal writes a number of the range that is not negative: a coefficient of no more digits
than the literal, and an exponent that counts those behind the point. -/
theorem literalValue?_eq_some {literal : List Char} {value : Decimal}
    (h : literalValue? literal = some value) : value.inRange ∧ value.negative = false ∧
      value.coefficient < 10 ^ literal.length ∧ value.exponent ≤ 0 := by
  simp only [literalValue?] at h
  split_ifs at h with hcheck
  obtain rfl := Option.some.inj h
  rw [Bool.or_eq_true, not_or, Bool.not_eq_true', Bool.not_eq_false] at hcheck
  refine ⟨hcheck.2, rfl, lt_of_lt_of_le (Digits.ofChars_lt _) ?_, by simp⟩
  refine Nat.pow_le_pow_right (by decide) ?_
  have hspan := List.takeWhile_append_dropWhile (p := (· != '.')) (l := dropSeparators literal)
  have hfilter := List.length_filter_le (!isSeparator ·) literal
  have hlength := congrArg List.length hspan
  rw [List.length_append] at hlength
  rw [List.span_eq_takeWhile_dropWhile, List.length_append, List.length_drop]
  rw [← dropSeparators] at hfilter
  simp only
  omega

/-- Every token of a text is a lexeme that stands there in the text. -/
theorem Scans.exists_place {start : ℕ} {cs : List Char} {tokens : List Token}
    (h : Scans start cs tokens) {token : Token} (htoken : token ∈ tokens) :
    ∃ kind raw xs ys, cs = xs ++ (raw ++ ys) ∧ token = place kind raw (start + xs.length) ∧
      Lexeme kind raw := by
  induction h with
  | nil => exact absurd htoken List.not_mem_nil
  | @blank start c cs tokens hblank _ ih =>
    obtain ⟨kind, raw, xs, ys, rfl, heq, hlexeme⟩ := ih htoken
    refine ⟨kind, raw, c :: xs, ys, rfl, ?_, hlexeme⟩
    rw [heq, List.length_cons, Nat.add_comm xs.length, Nat.add_assoc]
  | @token start kind raw rest tokens hlexeme _ _ ih =>
    rcases List.mem_cons.1 htoken with rfl | htoken
    · exact ⟨kind, raw, [], rest, rfl, rfl, hlexeme⟩
    · obtain ⟨kind', raw', xs, ys, rfl, heq, hlexeme'⟩ := ih htoken
      refine ⟨kind', raw', raw ++ xs, ys, (List.append_assoc ..).symm, ?_, hlexeme'⟩
      rw [heq, List.length_append, Nat.add_assoc]

/-- A token that is read is a lexeme of the text. -/
theorem Scans.exists_lexeme {start : ℕ} {cs : List Char} {tokens : List Token}
    (h : Scans start cs tokens) {token : Token} (htoken : token ∈ tokens) :
    ∃ kind raw offset, token = place kind raw offset ∧ Lexeme kind raw ∧
      raw.length ≤ cs.length := by
  obtain ⟨kind, raw, xs, ys, rfl, heq, hlexeme⟩ := h.exists_place htoken
  refine ⟨kind, raw, _, heq, hlexeme, ?_⟩
  rw [List.length_append, List.length_append]
  omega

/-- Every token of a text is a token by itself. -/
theorem Scans.lexeme {start : ℕ} {cs : List Char} {tokens : List Token}
    (h : Scans start cs tokens) : ∀ token ∈ tokens, Lexeme token.kind token.raw.toList := by
  intro token htoken
  obtain ⟨kind, raw, offset, rfl, hlexeme, -⟩ := h.exists_lexeme htoken
  rwa [place, String.toList_ofList]

/-- No token that is read is the end. -/
theorem Scans.kind_ne_finish {start : ℕ} {cs : List Char} {tokens : List Token}
    (h : Scans start cs tokens) : ∀ token ∈ tokens, token.kind ≠ .finish := by
  rintro token htoken hfinish
  obtain ⟨kind, raw, offset, rfl, hlexeme, -⟩ := h.exists_lexeme htoken
  obtain rfl : kind = .finish := hfinish
  cases hlexeme with
  | symbol hsymbol =>
    obtain hkind | ⟨hkind, -⟩ | ⟨hkind, -⟩ := symbol?_cases hsymbol <;> cases hkind

/-- The number of a token is in the range, not negative, and without a positive exponent. -/
theorem Scans.number {start : ℕ} {cs : List Char} {tokens : List Token} (h : Scans start cs tokens)
    {token : Token} (htoken : token ∈ tokens) {value : Decimal}
    (hkind : token.kind = .number value) :
    value.inRange ∧ value.negative = false ∧ value.coefficient < 10 ^ cs.length ∧
      value.exponent ≤ 0 := by
  obtain ⟨kind, raw, offset, rfl, hlexeme, hlength⟩ := h.exists_lexeme htoken
  obtain rfl : kind = .number value := hkind
  cases hlexeme with
  | symbol hsymbol =>
    obtain hkind | ⟨hkind, -⟩ | ⟨hkind, -⟩ := symbol?_cases hsymbol <;> cases hkind
  | literal _ _ hvalue =>
    obtain ⟨hrange, hsign, hdigits, hexponent⟩ := literalValue?_eq_some hvalue
    exact ⟨hrange, hsign, hdigits.trans_le (Nat.pow_le_pow_right (by decide) hlength), hexponent⟩

/-! ### Plain literals -/

/-- The digits are those of the library. -/
theorem isDigit_eq (c : Char) : Decimal.isDigit c = c.isDigit := rfl

/-- A digit is a part of a literal. -/
theorem isLiteralPart_of_isDigit {c : Char} (h : c.isDigit) : isLiteralPart c := by
  rw [isLiteralPart, isDigit_eq, h, Bool.true_or]

/-- A part of a literal is no point. -/
theorem ne_point_of_isLiteralPart {c : Char} (h : isLiteralPart c) : c ≠ '.' := by
  rintro rfl
  cases not_isLiteralPart_point.symm.trans h

/-- A digit is no point. -/
theorem ne_point_of_isDigit {c : Char} (h : c.isDigit) : c ≠ '.' :=
  ne_point_of_isLiteralPart (isLiteralPart_of_isDigit h)

/-- A digit is no separator. -/
theorem isSeparator_of_isDigit {c : Char} (h : c.isDigit) : isSeparator c = false := by
  rw [isSeparator, Bool.or_eq_false_iff, beq_eq_false_iff_ne, beq_eq_false_iff_ne]
  constructor <;> rintro rfl <;> exact absurd h (by decide)

/-- A literal goes on over digits and separators. -/
theorem splitLiteral_parts (pointSeen : Bool) {cs : List Char} (h : ∀ c ∈ cs, isLiteralPart c)
    (rest : List Char) : splitLiteral pointSeen (cs ++ rest) =
      (cs ++ (splitLiteral pointSeen rest).1, (splitLiteral pointSeen rest).2) := by
  induction cs with
  | nil => rfl
  | cons c cs ih =>
    have hc := h c (List.mem_cons_self ..)
    have hcontinues : continues pointSeen c := by
      rw [continues, hc, Bool.or_true]
    rw [List.cons_append, splitLiteral_cons, if_pos hcontinues,
      beq_false_of_ne (ne_point_of_isLiteralPart hc), Bool.or_false,
      ih fun d hd => h d (List.mem_cons_of_mem _ hd)]
    rfl

/-- Digits, and behind a point perhaps more of them. -/
def pointed (whole fraction : List Char) : List Char :=
  whole ++ if fraction.isEmpty then [] else '.' :: fraction

/-- Digits around a point are a literal, all of them. -/
theorem splitLiteral_pointed {whole fraction : List Char} (hwhole : ∀ c ∈ whole, c.isDigit)
    (hfraction : ∀ c ∈ fraction, c.isDigit) :
    splitLiteral false (pointed whole fraction) = (pointed whole fraction, []) := by
  rw [pointed, splitLiteral_parts false fun c hc => isLiteralPart_of_isDigit (hwhole c hc)]
  cases fraction with
  | nil => rfl
  | cons c cs =>
    have hrest := splitLiteral_parts true
      (fun d hd => isLiteralPart_of_isDigit (hfraction d hd)) []
    rw [List.append_nil] at hrest
    rw [List.isEmpty_cons, if_neg Bool.false_ne_true, splitLiteral_cons, if_pos (by decide),
      show (false || '.' == '.') = true by decide, hrest, splitLiteral, List.append_nil]

/-- Without separators, the parts of a literal are its digits. -/
theorem dropSeparators_parts {cs : List Char} (h : ∀ c ∈ cs, isLiteralPart c) :
    dropSeparators cs = cs.filter Char.isDigit := by
  refine List.filter_congr fun c hc => ?_
  cases hdigit : c.isDigit with
  | true => rw [isSeparator_of_isDigit hdigit]; rfl
  | false =>
    have hpart := h c hc
    rw [isLiteralPart, isDigit_eq, hdigit, Bool.false_or] at hpart
    rw [hpart]
    rfl

/-- **The number of a literal** is that of its digits, before its point and behind it. -/
theorem literalValue?_append {xs ys tail : List Char} (hxs : ∀ c ∈ xs, isLiteralPart c)
    (hys : ∀ c ∈ ys, isLiteralPart c) (htail : tail = [] ∧ ys = [] ∨ tail = '.' :: ys)
    {value : Decimal} (hvalue : value = ⟨false, Digits.ofChars (xs.filter Char.isDigit ++
      ys.filter Char.isDigit), -((ys.filter Char.isDigit).length : ℤ)⟩) (hrange : value.inRange) :
    literalValue? (xs ++ tail) =
      if (xs.filter Char.isDigit).isEmpty && (ys.filter Char.isDigit).isEmpty then none
      else some value := by
  have hbefore : ∀ c ∈ xs.filter Char.isDigit, (c != '.') = true := fun c hc =>
    bne_iff_ne.2 (ne_point_of_isDigit (List.mem_filter.1 hc).2)
  have hkept : dropSeparators tail = [] ∧ ys = [] ∨
      dropSeparators tail = '.' :: ys.filter Char.isDigit := by
    refine htail.imp (fun h => ⟨by rw [h.1]; rfl, h.2⟩) fun h => ?_
    rw [h, ← dropSeparators_parts hys]
    rfl
  have hspan : (dropSeparators (xs ++ tail)).span (· != '.') =
      (xs.filter Char.isDigit, dropSeparators tail) := by
    rw [dropSeparators, List.filter_append, ← dropSeparators, ← dropSeparators,
      dropSeparators_parts hxs, List.span_eq_takeWhile_dropWhile,
      List.takeWhile_append_of_pos hbefore, List.dropWhile_append_of_pos hbefore]
    rcases hkept with ⟨hkept, -⟩ | hkept <;> simp [hkept]
  have hbehind : (dropSeparators tail).drop 1 = ys.filter Char.isDigit := by
    rcases hkept with ⟨hkept, rfl⟩ | hkept <;> rw [hkept] <;> rfl
  rw [literalValue?, hspan]
  simp only [hbehind, ← hvalue, hrange, Bool.not_true, Bool.or_false]

/-- The value of digits around a point, if it is in the range. -/
theorem literalValue?_pointed {whole fraction : List Char} (hne : whole ≠ [])
    (hwhole : ∀ c ∈ whole, c.isDigit) (hfraction : ∀ c ∈ fraction, c.isDigit) {value : Decimal}
    (hvalue : value = ⟨false, Digits.ofChars (whole ++ fraction), -(fraction.length : ℤ)⟩)
    (hrange : value.inRange) : literalValue? (pointed whole fraction) = some value := by
  have htail : (if fraction.isEmpty then [] else '.' :: fraction) = [] ∧ fraction = [] ∨
      (if fraction.isEmpty then [] else '.' :: fraction) = '.' :: fraction := by
    cases fraction with
    | nil => exact .inl ⟨rfl, rfl⟩
    | cons c cs => exact .inr rfl
  rw [← List.filter_eq_self.2 hwhole, ← List.filter_eq_self.2 hfraction] at hvalue
  rw [pointed, literalValue?_append (fun c hc => isLiteralPart_of_isDigit (hwhole c hc))
    (fun c hc => isLiteralPart_of_isDigit (hfraction c hc)) htail hvalue hrange,
    List.filter_eq_self.2 hwhole, List.isEmpty_eq_false_iff.2 hne]
  rfl

/-- **Digits around a point are a number.** -/
theorem lexeme_pointed {whole fraction : List Char} (hne : whole ≠ [])
    (hwhole : ∀ c ∈ whole, c.isDigit) (hfraction : ∀ c ∈ fraction, c.isDigit) {value : Decimal}
    (hvalue : value = ⟨false, Digits.ofChars (whole ++ fraction), -(fraction.length : ℤ)⟩)
    (hrange : value.inRange) : Lexeme (.number value) (pointed whole fraction) := by
  have hliteral := literalValue?_pointed hne hwhole hfraction hvalue hrange
  obtain ⟨c, cs, rfl⟩ := List.exists_cons_of_ne_nil hne
  have hc := hwhole c (List.mem_cons_self ..)
  refine .literal ?_ ?_ hliteral
  · rw [isLiteralStart, isDigit_eq, hc, Bool.true_or]
  · rw [beq_false_of_ne (ne_point_of_isDigit hc)]
    exact splitLiteral_pointed (fun d hd => hwhole d (List.mem_cons_of_mem _ hd)) hfraction

/-! ### Putting texts together -/

/-- Every token ends before a character that neither a literal nor a star goes on with. -/
theorem ends_cons {c : Char} (hstar : c ≠ '*') (hpoint : c ≠ '.') (hpart : isLiteralPart c = false)
    (raw cs : List Char) : Ends raw (c :: cs) := by
  intro d hd
  obtain rfl := Option.some.inj hd
  rw [grows, continues, beq_false_of_ne hstar, beq_false_of_ne hpoint, hpart, Bool.false_and,
    Bool.or_false, Bool.and_false, Bool.and_false, Bool.or_false]

/-- Every token ends in front of a blank. -/
theorem ends_blank (raw cs : List Char) : Ends raw (' ' :: cs) :=
  ends_cons (by decide) (by decide) (by decide) raw cs

/-- Every token ends in front of a parenthesis. -/
theorem ends_closing (raw cs : List Char) : Ends raw (')' :: cs) :=
  ends_cons (by decide) (by decide) (by decide) raw cs

/-- A lexeme by itself is read as its token. -/
theorem Lexeme.scans {kind : Kind} {raw : List Char} (h : Lexeme kind raw) (start : ℕ) :
    Scans start raw [place kind raw start] := by
  have := Scans.token h (ends_nil raw) (@Scans.nil (start + raw.length))
  rwa [List.append_nil] at this

/-- A piece that is no star may stand in front of any text. -/
theorem Scans.symbol {start : ℕ} {c : Char} {kind : Kind} (h : symbol? c = some kind)
    (hstar : c ≠ '*') {cs : List Char} {tokens : List Token} (hrest : Scans (start + 1) cs tokens) :
    Scans start (c :: cs) (place kind [c] start :: tokens) := by
  refine show Scans start ([c] ++ cs) _ from .token (.symbol h) (fun d _ => ?_) hrest
  rw [grows_symbol h, beq_false_of_ne hstar, Bool.false_and]

/-- **Texts are read one after the other** if no token grows by the first character behind it. -/
theorem Scans.append {start : ℕ} {xs ys : List Char} {before after : List Token}
    (h : Scans start xs before) (hafter : Scans (start + xs.length) ys after)
    (hends : ∀ raw, Ends raw ys) : Scans start (xs ++ ys) (before ++ after) := by
  induction h with
  | nil => exact hafter
  | blank hblank _ ih =>
    rw [List.length_cons, Nat.add_comm _ 1, ← Nat.add_assoc] at hafter
    exact .blank hblank (ih hafter)
  | @token start kind raw rest tokens hlexeme hraw _ ih =>
    rw [List.length_append, ← Nat.add_assoc] at hafter
    rw [List.append_assoc]
    refine .token hlexeme ?_ (ih hafter)
    cases rest with
    | nil => exact hends raw
    | cons c rest => exact hraw

/-- **Parentheses part a text**: what stands before, in and behind them is read by itself. -/
theorem scans_parentheses_iff {start : ℕ} {cs inner rest : List Char} {tokens : List Token} :
    Scans start (cs ++ '(' :: (inner ++ ')' :: rest)) tokens ↔ ∃ before inside after,
      Scans start cs before ∧ Scans (start + cs.length + 1) inner inside ∧
        Scans (start + cs.length + 1 + inner.length + 1) rest after ∧
          tokens = before ++ place .opening ['('] (start + cs.length) ::
            (inside ++ place .closing [')'] (start + cs.length + 1 + inner.length) :: after) := by
  have hopening : '(' ≠ '*' ∧ '(' ≠ '.' ∧ isLiteralPart '(' = false := by decide
  have hclosing : ')' ≠ '*' := by decide
  constructor
  · intro h
    obtain ⟨before, behind, rfl, hbefore, hbehind⟩ := h.split rfl hopening.1
    obtain ⟨inside, after, rfl, hinside, hafter⟩ := hbehind.split rfl hclosing
    exact ⟨before, inside, after, hbefore, hinside, hafter, rfl⟩
  · rintro ⟨before, inside, after, hbefore, hinside, hafter, rfl⟩
    have hbehind := hinside.append (hafter.symbol rfl hclosing) fun raw => ends_closing raw rest
    exact hbefore.append (hbehind.symbol rfl hopening.1) fun raw =>
      ends_cons hopening.1 hopening.2.1 hopening.2.2 raw _

end Token
end Reckoner
