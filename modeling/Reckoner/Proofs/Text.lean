/-
# Blanks, word characters and lines

No word character is a blank (`isWord_eq_false_of_isBlank`), and every line break is one
(`isBlank_of_isBreak`). Trimming a text takes the blanks around it and leaves a text without blanks
at its ends (`exists_trim`, `trim_append`).

A line that is ended by a break is read by itself. There is one exception: a carriage return that
ends a line is one break with a line feed that ends the next, empty line, so that one line less is
read (`breakLines_terminated`).
-/

import Mathlib.Data.List.Basic
import Mathlib.Data.List.TakeWhile
import Reckoner.Text.Blank
import Reckoner.Text.Line
import Reckoner.Text.Word

namespace Reckoner
namespace Text

/-! ### Classes of characters -/

/-- Ranges that have no character in common with others. -/
theorem Ranges.not_contains {a b : Ranges} (h : ∀ r ∈ a, ∀ s ∈ b, r.2 < s.1 ∨ s.2 < r.1) {c : Char}
    (hc : a.contains c) : b.contains c = false := by
  obtain ⟨r, hr, hrc⟩ := List.any_eq_true.1 hc
  refine List.any_eq_false.2 fun s hs => ?_
  simp only [Bool.and_eq_true, decide_eq_true_eq] at hrc ⊢
  have := h r hr s hs
  omega

/-- A blank is no word character. -/
theorem isWord_eq_false_of_isBlank {c : Char} (h : isBlank c) : isWord c = false :=
  Ranges.not_contains (by decide +kernel) h

/-- A word character is no blank. -/
theorem isBlank_eq_false_of_isWord {c : Char} (h : isWord c) : isBlank c = false := by
  by_contra hblank
  rw [isWord_eq_false_of_isBlank (Bool.not_eq_false _ ▸ hblank)] at h
  cases h

/-- What begins a word is a word character. -/
theorem isWord_of_isWordStart {c : Char} (h : isWordStart c) : isWord c := by
  have hranges : (0x41, 0x5A) ∈ wordRanges ∧ (0x61, 0x7A) ∈ wordRanges ∧
      (0x5F, 0x5F) ∈ wordRanges := by decide +kernel
  have hin {r : ℕ × ℕ} (hr : r ∈ wordRanges) (hlow : r.1 ≤ c.toNat) (hhigh : c.toNat ≤ r.2) :
      isWord c := List.any_eq_true.2 ⟨r, hr, by simp [hlow, hhigh]⟩
  rw [isWordStart, Bool.or_eq_true, beq_iff_eq] at h
  obtain h | rfl := h
  · change (decide ('A'.val ≤ c.val ∧ c.val ≤ 'Z'.val) ||
      (decide ('a'.val ≤ c.val) && decide (c.val ≤ 'z'.val))) = true at h
    simp only [Bool.or_eq_true, Bool.and_eq_true, decide_eq_true_eq, UInt32.le_iff_toNat_le] at h
    obtain ⟨hlow, hhigh⟩ | ⟨hlow, hhigh⟩ := h
    · exact hin hranges.1 hlow hhigh
    · exact hin hranges.2.1 hlow hhigh
  · exact hin hranges.2.2 (by decide) (by decide)

/-- A break is a blank. -/
theorem isBlank_of_isBreak {c : Char} (h : isBreak c) : isBlank c := by
  have hblank : ∀ c ∈ ['\n', '\r', '\x0b', '\x0c', '\x1c', '\x1d', '\x1e', '\u0085', '\u2028',
      '\u2029'], isBlank c := List.all_eq_true.1 rfl
  exact hblank c (decide_eq_true_iff.1 h)

/-- A word character is no break. -/
theorem not_isBreak_of_isWord {c : Char} (h : isWord c) : ¬isBreak c := by
  intro hbreak
  cases (isBlank_eq_false_of_isWord h).symm.trans (isBlank_of_isBreak hbreak)

/-! ### Runs of characters -/

/-- A run of characters that satisfy `f` stops at one that does not. -/
theorem run_append {f : Char → Bool} {run rest : List Char} (hrun : ∀ c ∈ run, f c)
    (hrest : ∀ c ∈ rest.head?, f c = false) :
    (run ++ rest).takeWhile f = run ∧ (run ++ rest).dropWhile f = rest := by
  rw [List.takeWhile_append_of_pos hrun, List.dropWhile_append_of_pos hrun]
  cases rest with
  | nil => simp
  | cons c rest => simp [hrest c rfl]

/-- A run of characters and what is behind it are told apart. -/
theorem run_append_inj {f : Char → Bool} {run rest run' rest' : List Char} (hrun : ∀ c ∈ run, f c)
    (hrest : ∀ c ∈ rest.head?, f c = false) (hrun' : ∀ c ∈ run', f c)
    (hrest' : ∀ c ∈ rest'.head?, f c = false) (h : run ++ rest = run' ++ rest') :
    run = run' ∧ rest = rest' := by
  obtain ⟨htake, hdrop⟩ := run_append hrun hrest
  obtain ⟨htake', hdrop'⟩ := run_append hrun' hrest'
  rw [h] at htake hdrop
  exact ⟨htake.symm.trans htake', hdrop.symm.trans hdrop'⟩

/-- What is left behind a run does not go on with it. -/
theorem head?_dropWhile {f : Char → Bool} (cs : List Char) :
    ∀ c ∈ (cs.dropWhile f).head?, f c = false := by
  intro c hc
  have := List.head?_dropWhile_not f cs
  rw [Option.mem_def.1 hc] at this
  exact this

/-- A text up to an offset, cut at an offset in front of it. -/
theorem take_append_slice (cs : List Char) {a b : ℕ} (h : a ≤ b) :
    cs.take a ++ (cs.take b).drop a = cs.take b := by
  conv_rhs => rw [← List.take_append_drop a (cs.take b), List.take_take, min_eq_left h]

/-- A run of word characters stops at blanks. -/
theorem isWord_head_gap {gap : List Char} (hgap : ∀ c ∈ gap, isBlank c) {c : Char}
    (hc : isWord c = false) (rest : List Char) :
    ∀ b ∈ (gap ++ c :: rest).head?, isWord b = false := by
  cases gap with
  | nil =>
    rintro _ ⟨⟩
    exact hc
  | cons b gap =>
    rintro _ ⟨⟩
    exact isWord_eq_false_of_isBlank (hgap b List.mem_cons_self)

/-! ### Blanks at the ends -/

/-- That a text has no blanks at its ends. -/
def Trimmed (cs : List Char) : Prop :=
  (∀ c ∈ cs.head?, isBlank c = false) ∧ ∀ c ∈ cs.getLast?, isBlank c = false

/-- **Trimming takes off blanks alone**, and leaves a text that is trimmed. -/
theorem exists_trim (cs : List Char) :
    ∃ before behind, (∀ c ∈ before, isBlank c) ∧ (∀ c ∈ behind, isBlank c) ∧
      cs = before ++ (trim cs ++ behind) ∧ Trimmed (trim cs) := by
  have hspan : cs.dropWhile isBlank =
      trim cs ++ ((cs.dropWhile isBlank).reverse.takeWhile isBlank).reverse := by
    rw [trim, dropEndWhile, ← List.reverse_append, List.takeWhile_append_dropWhile,
      List.reverse_reverse]
  refine ⟨cs.takeWhile isBlank, ((cs.dropWhile isBlank).reverse.takeWhile isBlank).reverse,
    fun _ => List.mem_takeWhile_imp, fun c hc => List.mem_takeWhile_imp (List.mem_reverse.1 hc),
    ?_, fun c hc => ?_, fun c hc => ?_⟩
  · rw [← hspan, List.takeWhile_append_dropWhile]
  · refine head?_dropWhile (f := isBlank) cs c ?_
    rw [hspan, List.head?_append, Option.mem_def.1 hc]
    rfl
  · rw [trim, dropEndWhile, List.getLast?_reverse] at hc
    exact head?_dropWhile _ c hc

/-- Of blanks nothing is left. -/
theorem trim_of_all {cs : List Char} (h : ∀ c ∈ cs, isBlank c) : trim cs = [] := by
  rw [trim, List.dropWhile_eq_nil_iff.2 h]
  rfl

/-- The blanks around a text are what is trimmed. -/
theorem trim_append {before cs behind : List Char} (hbefore : ∀ c ∈ before, isBlank c)
    (hbehind : ∀ c ∈ behind, isBlank c) (h : Trimmed cs) :
    trim (before ++ (cs ++ behind)) = cs := by
  cases cs with
  | nil => exact trim_of_all (List.forall_mem_append.2 ⟨hbefore, hbehind⟩)
  | cons c cs =>
    have hreverse : (∀ b ∈ behind.reverse, isBlank b) ∧
        ∀ b ∈ (c :: cs).reverse.head?, isBlank b = false :=
      ⟨fun b hb => hbehind b (List.mem_reverse.1 hb), by rw [List.head?_reverse]; exact h.2⟩
    rw [trim, (run_append hbefore (by simpa using h.1)).2, dropEndWhile, List.reverse_append,
      (run_append hreverse.1 hreverse.2).2, List.reverse_reverse]

/-- A text that is trimmed stays. -/
theorem trim_eq_self_iff {cs : List Char} : trim cs = cs ↔ Trimmed cs := by
  constructor
  · intro h
    obtain ⟨_, _, -, -, -, htrimmed⟩ := exists_trim cs
    exact h ▸ htrimmed
  · intro h
    have htrim := @trim_append [] cs [] nofun nofun h
    rwa [List.append_nil] at htrim

/-- Nothing is left of blanks alone. -/
theorem trim_eq_nil_iff {cs : List Char} : trim cs = [] ↔ ∀ c ∈ cs, isBlank c := by
  refine ⟨fun h => ?_, trim_of_all⟩
  obtain ⟨before, behind, hbefore, hbehind, hcs, -⟩ := exists_trim cs
  rw [h, List.nil_append] at hcs
  exact hcs ▸ List.forall_mem_append.2 ⟨hbefore, hbehind⟩

/-! ### Lines -/

/-- That no line ends in a text. -/
def Unbroken (cs : List Char) : Prop := ∀ c ∈ cs, ¬isBreak c

/-- A text has no breaks if its parts have none. -/
theorem unbroken_append {xs ys : List Char} : Unbroken (xs ++ ys) ↔ Unbroken xs ∧ Unbroken ys :=
  List.forall_mem_append

/-- A text has no breaks if its first character is none and the rest has none. -/
theorem unbroken_cons {c : Char} {cs : List Char} :
    Unbroken (c :: cs) ↔ ¬isBreak c ∧ Unbroken cs := List.forall_mem_cons

/-- Blanks in one line. -/
def IsGap (cs : List Char) : Prop := (∀ c ∈ cs, isBlank c) ∧ Unbroken cs

/-- A gap may be empty. -/
theorem isGap_nil : IsGap [] := ⟨List.forall_mem_nil _, List.forall_mem_nil _⟩

/-- What ends a line. -/
inductive Terminator : List Char → Prop
  | pair : Terminator ['\r', '\n']
  | single {c : Char} : isBreak c → Terminator [c]

/-- Characters that are no breaks are taken into the line. -/
theorem breakLinesFrom_unbroken {cs : List Char} (h : Unbroken cs) (line rest : List Char) :
    breakLinesFrom line (cs ++ rest) = breakLinesFrom (cs.reverse ++ line) rest := by
  induction cs generalizing line with
  | nil => rfl
  | cons c cs ih =>
    obtain ⟨hc, hcs⟩ := List.forall_mem_cons.1 h
    have hne : c ≠ '\r' := by
      rintro rfl
      exact hc rfl
    rw [List.cons_append, breakLinesFrom, if_neg hc, ih hcs, List.reverse_cons, List.append_assoc]
    · rfl
    · exact fun _ hr => absurd hr hne

/-- A break ends the line, unless it is a return with a line feed behind it. -/
theorem breakLinesFrom_break {c : Char} (hc : isBreak c) {rest : List Char}
    (hrest : c = '\r' → '\n' ∉ rest.head?) (line : List Char) :
    breakLinesFrom line (c :: rest) = line.reverse :: breakLines rest := by
  rw [breakLinesFrom, if_pos hc, breakLines]
  rintro cs rfl rfl
  exact hrest rfl rfl

/-- A text without breaks is one line, or none if it is empty. -/
theorem breakLines_unbroken {cs : List Char} (h : Unbroken cs) :
    breakLines cs = if cs.isEmpty then [] else [cs] := by
  have hlines := breakLinesFrom_unbroken h [] []
  rw [List.append_nil] at hlines
  rw [breakLines, hlines, breakLinesFrom]
  simp

/-- A line that is ended is read by itself, but a carriage return may take the line feed behind an
empty line with it. -/
theorem breakLines_terminated {cs ending : List Char} (h : Unbroken cs)
    (hending : Terminator ending) (rest : List Char) :
    breakLines (cs ++ (ending ++ rest)) = cs :: breakLines rest ∨
      ∃ rest', breakLines rest = [] :: breakLines rest' ∧
        breakLines (cs ++ (ending ++ rest)) = cs :: breakLines rest' := by
  have hpair (rest : List Char) :
      breakLines (cs ++ '\r' :: '\n' :: rest) = cs :: breakLines rest := by
    rw [breakLines, breakLinesFrom_unbroken h, breakLinesFrom, breakLines]
    simp
  cases hending with
  | pair => exact .inl (hpair rest)
  | @single c hc =>
    by_cases hmerge : c = '\r' ∧ '\n' ∈ rest.head?
    · obtain ⟨rfl, hhead⟩ := hmerge
      cases rest with
      | nil => cases hhead
      | cons c rest =>
        cases hhead
        have hfeed : breakLines ('\n' :: rest) = [] :: breakLines rest :=
          breakLinesFrom_break rfl (fun h => absurd h (by decide)) []
        exact .inr ⟨rest, hfeed, hpair rest⟩
    · left
      rw [breakLines, breakLinesFrom_unbroken h, List.singleton_append,
        breakLinesFrom_break hc fun hr hn => hmerge ⟨hr, hn⟩]
      simp

/-- No line holds a break. -/
theorem unbroken_of_mem_breakLinesFrom {line cs : List Char} (hline : Unbroken line) :
    ∀ l ∈ breakLinesFrom line cs, Unbroken l := by
  have hreverse {line : List Char} (hline : Unbroken line) : Unbroken line.reverse :=
    fun c hc => hline c (List.mem_reverse.1 hc)
  fun_induction breakLinesFrom line cs with
  | case1 => nofun
  | case2 => exact fun l hl => List.mem_singleton.1 hl ▸ hreverse hline
  | case3 line cs ih => exact List.forall_mem_cons.2 ⟨hreverse hline, ih nofun⟩
  | case4 line c cs _ _ ih => exact List.forall_mem_cons.2 ⟨hreverse hline, ih nofun⟩
  | case5 line c cs _ hc ih => exact ih (List.forall_mem_cons.2 ⟨hc, hline⟩)

end Text
end Reckoner
