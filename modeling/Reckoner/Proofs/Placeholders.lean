/-
# Placeholders

A placeholder is a name in two pairs of braces, with blanks around it or not. Filling in reads a
text once, from left to right, and goes on behind each placeholder that it finds. No placeholder is
missed in this way: a placeholder has no opening braces but its first two, so no other one begins in
it (`Placeholder.StandsAt.disjoint`), and a text whose first characters are not a placeholder may be
read on from its second character.

| text | placeholders |
| --- | --- |
| three braces, `x`, three braces | one, from the second brace on |
| two braces, `x`, one brace | none |
| two braces, `a`, two braces, `b`, two braces closed | the one of `b` |

A text with placeholders in it is a `Template.Layout`. It is tight if its placeholders are all that
stand in the text (`Layout.Tight`). Every text has a tight layout (`Layout.exists_tight`), by which
it is filled in (`fillFrom_tight`), so the values are not searched for placeholders
(`fill_replaces`).
-/

import Reckoner.Proofs.Text
import Reckoner.Template

namespace Reckoner

namespace Template

/-! ### Names -/

/-- That a text can be the name of a variable. -/
def IsName : List Char → Prop
  | [] => False
  | c :: cs => Text.isWordStart c ∧ ∀ c ∈ cs, Text.isWord c

/-- The characters of a name are word characters. -/
theorem IsName.isWord {name : List Char} (h : IsName name) : ∀ c ∈ name, Text.isWord c := by
  cases name with
  | nil => exact h.elim
  | cons first others => exact List.forall_mem_cons.2 ⟨Text.isWord_of_isWordStart h.1, h.2⟩

/-- A name does not begin with a blank. -/
theorem IsName.isBlank_head {name : List Char} (h : IsName name) (rest : List Char) :
    ∀ c ∈ (name ++ rest).head?, Text.isBlank c = false := by
  cases name with
  | nil => exact h.elim
  | cons first others =>
    rintro _ ⟨⟩
    exact Text.isBlank_eq_false_of_isWord (h.isWord first List.mem_cons_self)

/-- **A name is read** up to the first character that is no word character. -/
theorem readName?_eq_some_iff {cs name rest : List Char} :
    readName? cs = some (name, rest) ↔
      cs = name ++ rest ∧ IsName name ∧ ∀ c ∈ rest.head?, Text.isWord c = false := by
  constructor
  · intro h
    cases cs with
    | nil => cases h
    | cons c cs =>
      rw [readName?] at h
      split_ifs at h with hstart
      cases h
      exact ⟨congrArg (c :: ·) List.takeWhile_append_dropWhile.symm,
        ⟨hstart, fun _ => List.mem_takeWhile_imp⟩, Text.head?_dropWhile cs⟩
  · rintro ⟨rfl, hname, hrest⟩
    cases name with
    | nil => exact hname.elim
    | cons c cs =>
      obtain ⟨htake, hdrop⟩ := Text.run_append hname.2 hrest
      rw [List.cons_append, readName?, if_pos hname.1, htake, hdrop]

/-! ### Placeholders -/

/-- A name in braces. -/
structure Placeholder where
  before : List Char
  first : Char
  others : List Char
  after : List Char
  isBlank_before : ∀ c ∈ before, Text.isBlank c
  isWordStart_first : Text.isWordStart first
  isWord_others : ∀ c ∈ others, Text.isWord c
  isBlank_after : ∀ c ∈ after, Text.isBlank c

namespace Placeholder

variable {p q : Placeholder} {cs xs ys rest : List Char} {j k : ℕ}

/-- The name of the variable. -/
def name (p : Placeholder) : String := String.ofList (p.first :: p.others)

/-- A placeholder as it is written. -/
def text (p : Placeholder) : List Char :=
  ['\x7b', '\x7b'] ++ p.before ++ (p.first :: p.others) ++ p.after ++ ['\x7d', '\x7d']

/-- That a placeholder stands at a place of a text. -/
def StandsAt (p : Placeholder) (k : ℕ) (cs : List Char) : Prop := p.text <+: cs.drop k

/-- A placeholder holds a name. -/
theorem isName (p : Placeholder) : IsName (p.first :: p.others) :=
  ⟨p.isWordStart_first, p.isWord_others⟩

/-- The text of a placeholder, part by part, with something behind it. -/
theorem text_append (p : Placeholder) (rest : List Char) :
    p.text ++ rest = '\x7b' :: '\x7b' ::
      (p.before ++ ((p.first :: p.others) ++ (p.after ++ '\x7d' :: '\x7d' :: rest))) := by
  simp [text]

/-- Where the parts of a placeholder stop. -/
theorem stops (p : Placeholder) (rest : List Char) :
    (∀ c ∈ ((p.first :: p.others) ++ rest).head?, Text.isBlank c = false) ∧
      (∀ c ∈ (p.after ++ '\x7d' :: rest).head?, Text.isWord c = false) ∧
      ∀ c ∈ ('\x7d' :: rest).head?, Text.isBlank c = false := by
  have hbrace : Text.isWord '\x7d' = false := by decide +kernel
  refine ⟨p.isName.isBlank_head rest, Text.isWord_head_gap p.isBlank_after hbrace rest, ?_⟩
  rintro _ ⟨⟩
  decide

/-- A text begins with one placeholder at most. -/
theorem text_append_inj (h : p.text ++ xs = q.text ++ ys) : p = q ∧ xs = ys := by
  rw [p.text_append, q.text_append] at h
  obtain ⟨hbefore, h⟩ := Text.run_append_inj p.isBlank_before (p.stops _).1 q.isBlank_before
    (q.stops _).1 (List.cons.inj (List.cons.inj h).2).2
  obtain ⟨hfirst, h⟩ := List.cons.inj h
  obtain ⟨hothers, h⟩ := Text.run_append_inj p.isWord_others (p.stops _).2.1 q.isWord_others
    (q.stops _).2.1 h
  obtain ⟨hafter, h⟩ := Text.run_append_inj p.isBlank_after (p.stops _).2.2 q.isBlank_after
    (q.stops _).2.2 h
  refine ⟨?_, (List.cons.inj (List.cons.inj h).2).2⟩
  cases p
  cases q
  simp_all

/-- A placeholder has two opening braces. -/
theorem lt_two_of_brace (h : p.text[k]? = some '\x7b') : k < 2 := by
  have hblank : Text.isBlank '\x7b' = false := by decide
  have hword : Text.isWord '\x7b' = false := by decide +kernel
  have hbody : '\x7b' ∉ p.before ++ ((p.first :: p.others) ++ (p.after ++ ['\x7d', '\x7d'])) := by
    simp only [List.mem_append, not_or]
    refine ⟨fun h => ?_, fun h => ?_, fun h => ?_, by decide⟩
    · cases hblank.symm.trans (p.isBlank_before _ h)
    · cases hword.symm.trans (p.isName.isWord _ h)
    · cases hblank.symm.trans (p.isBlank_after _ h)
  rw [← p.text.append_nil, p.text_append] at h
  match k with
  | 0 | 1 => omega
  | k + 2 =>
    rw [List.getElem?_cons_succ, List.getElem?_cons_succ] at h
    exact absurd (List.mem_of_getElem? h) hbody

/-- A placeholder is longer than its braces. -/
theorem two_lt_length (p : Placeholder) : 2 < p.text.length := by
  simp only [text, List.length_append, List.length_cons, List.length_nil]
  omega

/-- A placeholder begins with two braces. -/
theorem StandsAt.brace (h : p.StandsAt k cs) : cs[k]? = some '\x7b' ∧ cs[k + 1]? = some '\x7b' := by
  obtain ⟨rest, h⟩ := h
  rw [p.text_append] at h
  have hnth (i : ℕ) := (congrArg (·[i]?) h).trans (List.getElem?_drop ..)
  exact ⟨(hnth 0).symm, (hnth 1).symm⟩

/-- Where a placeholder stands is counted on from what is in front. -/
theorem standsAt_append (xs : List Char) :
    p.StandsAt (xs.length + k) (xs ++ ys) ↔ p.StandsAt k ys := by
  rw [StandsAt, StandsAt, List.drop_append, List.drop_eq_nil_of_le (by omega), List.nil_append,
    Nat.add_sub_cancel_left]

/-- In a text that begins with a placeholder, the others stand behind it. -/
theorem standsAt_text_append :
    p.StandsAt k (q.text ++ rest) ↔
      (k = 0 ∧ p = q) ∨ ∃ i, k = q.text.length + i ∧ p.StandsAt i rest := by
  constructor
  · intro h
    obtain hk | hk := Nat.lt_or_ge k q.text.length
    · obtain ⟨hfirst, hsecond⟩ := h.brace
      rw [List.getElem?_append_left hk] at hfirst
      have hlt := lt_two_of_brace hfirst
      have hlength := q.two_lt_length
      rw [List.getElem?_append_left (by omega)] at hsecond
      obtain rfl : k = 0 := by have := lt_two_of_brace hsecond; omega
      obtain ⟨tail, h⟩ := h
      exact .inl ⟨rfl, (text_append_inj h).1⟩
    · obtain ⟨i, rfl⟩ := Nat.exists_eq_add_of_le hk
      exact .inr ⟨i, rfl, (standsAt_append _).1 h⟩
  · rintro (⟨rfl, rfl⟩ | ⟨i, rfl, h⟩)
    · exact List.prefix_append _ _
    · exact (standsAt_append _).2 h

/-- A placeholder that begins behind another one begins behind its end. -/
theorem StandsAt.le_of_lt (hp : p.StandsAt k cs) (hq : q.StandsAt j cs) (h : k < j) :
    k + p.text.length ≤ j := by
  obtain ⟨i, rfl⟩ := Nat.exists_eq_add_of_le h.le
  obtain ⟨rest, hp⟩ := hp
  rw [StandsAt, ← List.drop_drop, ← hp] at hq
  obtain ⟨rfl, -⟩ | ⟨i, rfl, -⟩ := standsAt_text_append.1 hq
  · omega
  · omega

/-- **Placeholders have no character in common.** -/
theorem StandsAt.disjoint (hp : p.StandsAt k cs) (hq : q.StandsAt j cs) :
    (k = j ∧ p = q) ∨ k + p.text.length ≤ j ∨ j + q.text.length ≤ k := by
  obtain h | rfl | h := Nat.lt_trichotomy k j
  · exact .inr (.inl (hp.le_of_lt hq h))
  · obtain ⟨xs, hp⟩ := hp
    obtain ⟨ys, hq⟩ := hq
    exact .inl ⟨rfl, (text_append_inj (hp.trans hq.symm)).1⟩
  · exact .inr (.inr (hq.le_of_lt hp h))

end Placeholder

/-- The text of a placeholder is read as its name. -/
theorem readPlaceholder?_text (p : Placeholder) (rest : List Char) :
    readPlaceholder? (p.text ++ rest) = some (p.first :: p.others, rest) := by
  obtain ⟨hbefore, -, -⟩ := p.stops (p.after ++ '\x7d' :: '\x7d' :: rest)
  obtain ⟨-, hname, hafter⟩ := p.stops ('\x7d' :: rest)
  rw [p.text_append, readPlaceholder?, (Text.run_append p.isBlank_before hbefore).2,
    readName?_eq_some_iff.2 ⟨rfl, p.isName, hname⟩]
  simp only [(Text.run_append p.isBlank_after hafter).2]

/-- What is read as a name is the text of a placeholder. -/
theorem readPlaceholder?_eq_some {cs name rest : List Char}
    (h : readPlaceholder? cs = some (name, rest)) : ∃ p : Placeholder, cs = p.text ++ rest := by
  unfold readPlaceholder? at h
  split at h <;> try contradiction
  rename_i cs
  split at h <;> try contradiction
  rename_i name after hname
  split at h <;> try contradiction
  rename_i rest hclose
  obtain ⟨hread, hisName, -⟩ := readName?_eq_some_iff.1 hname
  cases h
  cases name with
  | nil => exact hisName.elim
  | cons c name =>
    refine ⟨⟨cs.takeWhile Text.isBlank, c, name, after.takeWhile Text.isBlank,
      fun _ => List.mem_takeWhile_imp, hisName.1, hisName.2, fun _ => List.mem_takeWhile_imp⟩, ?_⟩
    rw [Placeholder.text_append]
    simp only
    rw [← hclose, List.takeWhile_append_dropWhile, ← hread, List.takeWhile_append_dropWhile]

/-- **Nothing is read** exactly where no placeholder stands. -/
theorem readPlaceholder?_eq_none_iff {cs : List Char} :
    readPlaceholder? cs = none ↔ ∀ p : Placeholder, ¬p.StandsAt 0 cs := by
  constructor
  · rintro h p ⟨rest, rfl⟩
    cases (readPlaceholder?_text p rest).symm.trans h
  · intro h
    cases hread : readPlaceholder? cs with
    | none => rfl
    | some found =>
      obtain ⟨p, hp⟩ := readPlaceholder?_eq_some hread
      exact absurd ⟨found.2, hp.symm⟩ (h p)

/-! ### Texts by their parts -/

/-- A text with placeholders in it. -/
inductive Layout where
  | literal (cs : List Char)
  | placeholder (cs : List Char) (p : Placeholder) (rest : Layout)

namespace Layout

/-- The text with `f` for what stands in place of a placeholder. -/
def render (f : Placeholder → List Char) : Layout → List Char
  | literal cs => cs
  | placeholder cs p rest => cs ++ (f p ++ rest.render f)

/-- The placeholders from left to right. -/
def placeholders : Layout → List Placeholder
  | literal _ => []
  | placeholder _ p rest => p :: rest.placeholders

/-- What stands between the placeholders. -/
def literals : Layout → List (List Char)
  | literal cs => [cs]
  | placeholder cs _ rest => cs :: rest.literals

/-- The placeholders with their places if the text begins at `start`. -/
def places (start : ℕ) : Layout → List (ℕ × Placeholder)
  | literal _ => []
  | placeholder cs p rest =>
    (start + cs.length, p) :: rest.places (start + cs.length + p.text.length)

/-- That no placeholder begins between those of a layout. -/
def Tight : Layout → Prop
  | literal cs => ∀ k < cs.length, ∀ p : Placeholder, ¬p.StandsAt k cs
  | placeholder cs p rest =>
    (∀ k < cs.length, ∀ q : Placeholder,
      ¬q.StandsAt k (cs ++ (p.text ++ rest.render Placeholder.text))) ∧ rest.Tight

/-- The layout with one more character in front. -/
def cons (c : Char) : Layout → Layout
  | literal cs => literal (c :: cs)
  | placeholder cs p rest => placeholder (c :: cs) p rest

variable {layout : Layout} {start n : ℕ}

/-- A character in front of a layout is in front of its text. -/
theorem render_cons (c : Char) (f : Placeholder → List Char) (layout : Layout) :
    (layout.cons c).render f = c :: layout.render f := by
  cases layout <;> rfl

/-- A tight layout stays tight if no placeholder begins at the character in front. -/
theorem Tight.cons {c : Char} (h : layout.Tight)
    (hc : ∀ p : Placeholder, ¬p.StandsAt 0 (c :: layout.render Placeholder.text)) :
    (layout.cons c).Tight := by
  cases layout with
  | literal cs => exact Nat.forall_lt_succ_left.2 ⟨hc, h⟩
  | placeholder cs p rest => exact ⟨Nat.forall_lt_succ_left.2 ⟨hc, h.1⟩, h.2⟩

/-- **Every text has a tight layout.** -/
theorem exists_tight (cs : List Char) :
    ∃ layout : Layout, layout.Tight ∧ layout.render Placeholder.text = cs := by
  by_cases h : ∃ p : Placeholder, p.StandsAt 0 cs
  · obtain ⟨p, rest, h⟩ := h
    have hlength : rest.length < cs.length := by
      have htwo := p.two_lt_length
      have := congrArg List.length h
      rw [List.length_append, List.drop_zero] at this
      omega
    obtain ⟨layout, htight, rfl⟩ := exists_tight rest
    exact ⟨.placeholder [] p layout, ⟨nofun, htight⟩, h⟩
  · rw [not_exists] at h
    cases cs with
    | nil => exact ⟨.literal [], nofun, rfl⟩
    | cons c cs =>
      obtain ⟨layout, htight, rfl⟩ := exists_tight cs
      exact ⟨layout.cons c, htight.cons h, layout.render_cons c _⟩
termination_by cs.length
decreasing_by
  · exact hlength
  · exact Nat.lt_succ_self _

/-- A placeholder that does not begin in a literal stands behind it. -/
theorem standsAt_behind {p : Placeholder} {cs rest : List Char} {k : ℕ}
    (hcs : ∀ k < cs.length, ∀ q : Placeholder, ¬q.StandsAt k (cs ++ rest))
    (hp : p.StandsAt k (cs ++ rest)) : ∃ i, k = cs.length + i ∧ p.StandsAt i rest := by
  obtain ⟨i, rfl⟩ := Nat.exists_eq_add_of_le (Nat.le_of_not_lt fun hk => hcs k hk p hp)
  exact ⟨i, rfl, (Placeholder.standsAt_append cs).1 hp⟩

/-- The placeholders of a tight layout are those of its text. -/
theorem Tight.mem_places_iff {p : Placeholder} (h : layout.Tight) :
    (n, p) ∈ layout.places start ↔
      ∃ k, n = start + k ∧ p.StandsAt k (layout.render Placeholder.text) := by
  induction layout generalizing start with
  | literal cs =>
    refine ⟨nofun, fun ⟨k, _, hp⟩ => ?_⟩
    rw [render, ← cs.append_nil] at hp
    obtain ⟨i, -, rest, hi⟩ := standsAt_behind (by simpa [Tight] using h) hp
    simp [Placeholder.text] at hi
  | placeholder cs q rest ih =>
    rw [places, List.mem_cons, Prod.mk.injEq, ih h.2, render]
    constructor
    · rintro (⟨rfl, rfl⟩ | ⟨k, rfl, hp⟩)
      · exact ⟨cs.length + 0, rfl, (Placeholder.standsAt_append cs).2
          (Placeholder.standsAt_text_append.2 (.inl ⟨rfl, rfl⟩))⟩
      · exact ⟨cs.length + (q.text.length + k), by omega, (Placeholder.standsAt_append cs).2
          ((Placeholder.standsAt_append q.text).2 hp)⟩
    · rintro ⟨k, rfl, hp⟩
      obtain ⟨i, rfl, hi⟩ := standsAt_behind h.1 hp
      obtain ⟨rfl, rfl⟩ | ⟨j, rfl, hj⟩ := Placeholder.standsAt_text_append.1 hi
      · exact .inl ⟨rfl, rfl⟩
      · exact .inr ⟨j, by omega, hj⟩

/-- Without their places, the placeholders are those from left to right. -/
theorem map_snd_places (layout : Layout) (start : ℕ) :
    (layout.places start).map Prod.snd = layout.placeholders := by
  induction layout generalizing start with
  | literal => rfl
  | placeholder cs p rest ih => exact congrArg (p :: ·) (ih _)

/-- No placeholder is placed before the start. -/
theorem le_of_mem_places {q : ℕ × Placeholder} (h : q ∈ layout.places start) : start ≤ q.1 := by
  induction layout generalizing start with
  | literal => cases h
  | placeholder cs p rest ih =>
    obtain rfl | h := List.mem_cons.1 h
    · exact Nat.le_add_right ..
    · have := ih h
      omega

/-- A layout is tight if there are no opening braces between its placeholders. -/
theorem tight_of_not_mem (h : ∀ cs ∈ layout.literals, '\x7b' ∉ cs) : layout.Tight := by
  induction layout with
  | literal cs =>
    exact fun k _ p hp => h cs (List.mem_singleton_self _) (List.mem_of_getElem? hp.brace.1)
  | placeholder cs p rest ih =>
    obtain ⟨hcs, hrest⟩ := List.forall_mem_cons.1 h
    refine ⟨fun k hk q hq => hcs ?_, ih hrest⟩
    exact List.mem_of_getElem? ((List.getElem?_append_left hk).symm.trans hq.brace.1)

/-! ### Filling in by the parts -/

/-- The text with the values of variables in place of its placeholders. -/
def fillWith (bindings : Bindings) : Layout → Except TemplateError (List Char)
  | literal cs => .ok cs
  | placeholder cs p rest =>
    match bindings.find? p.name with
    | some value => (rest.fillWith bindings).map fun filled => cs ++ (value.toList ++ filled)
    | none => .error (.undefined p.name)

variable {bindings other : Bindings}

/-- A layout is filled in if each of its placeholders has a value. -/
theorem fillWith_eq_ok {value : Placeholder → String}
    (h : ∀ p ∈ layout.placeholders, bindings.find? p.name = some (value p)) :
    layout.fillWith bindings = .ok (layout.render fun p => (value p).toList) := by
  induction layout with
  | literal => rfl
  | placeholder cs p rest ih =>
    obtain ⟨hp, hrest⟩ := List.forall_mem_cons.1 h
    rw [fillWith, hp, ih hrest]
    rfl

/-- The leftmost placeholder without a value is reported. -/
theorem fillWith_eq_error {p : Placeholder} (hmem : (n, p) ∈ layout.places start)
    (hp : bindings.find? p.name = none)
    (hbefore : ∀ q ∈ layout.places start, q.1 < n → bindings.find? q.2.name ≠ none) :
    layout.fillWith bindings = .error (.undefined p.name) := by
  induction layout generalizing start with
  | literal => cases hmem
  | placeholder cs q rest ih =>
    obtain ⟨hq, hrest⟩ := List.forall_mem_cons.1 hbefore
    rw [fillWith]
    obtain heq | hmem := List.mem_cons.1 hmem
    · cases heq
      rw [hp]
    · have hlt := le_of_mem_places hmem
      have hlength := q.two_lt_length
      obtain ⟨value, hvalue⟩ := Option.ne_none_iff_exists'.1 (hq (by omega))
      rw [hvalue, ih hmem hrest]
      rfl

/-- Only the values of the placeholders matter. -/
theorem fillWith_congr
    (h : ∀ p ∈ layout.placeholders, other.find? p.name = bindings.find? p.name) :
    layout.fillWith other = layout.fillWith bindings := by
  induction layout with
  | literal => rfl
  | placeholder cs p rest ih =>
    obtain ⟨hp, hrest⟩ := List.forall_mem_cons.1 h
    rw [fillWith, fillWith, hp, ih hrest]

end Layout

variable {bindings : Bindings}

/-- At the end of the text, what was done is all. -/
theorem fillFrom_nil (bindings : Bindings) (done : List Char) :
    fillFrom bindings done [] = .ok done.reverse := by
  rw [fillFrom]
  rfl

/-- A character at which no placeholder stands is taken over. -/
theorem fillFrom_cons {c : Char} {cs : List Char} (h : readPlaceholder? (c :: cs) = none)
    (bindings : Bindings) (done : List Char) :
    fillFrom bindings done (c :: cs) = fillFrom bindings (c :: done) cs := by
  rw [fillFrom]
  split
  · rename_i hfound
    cases h.symm.trans hfound
  · rfl

/-- A placeholder is filled in with its value, or its name is undefined. -/
theorem fillFrom_text (bindings : Bindings) (p : Placeholder) (done rest : List Char) :
    fillFrom bindings done (p.text ++ rest) =
      match bindings.find? p.name with
      | some value => fillFrom bindings (value.toList.reverse ++ done) rest
      | none => .error (.undefined p.name) := by
  rw [fillFrom]
  split
  · rename_i hfound
    cases (readPlaceholder?_text p rest).symm.trans hfound
    rfl
  · rename_i hfound
    cases (readPlaceholder?_text p rest).symm.trans hfound

/-- Characters at which no placeholder stands are taken over. -/
theorem fillFrom_literal {cs rest : List Char}
    (h : ∀ k < cs.length, ∀ p : Placeholder, ¬p.StandsAt k (cs ++ rest)) (bindings : Bindings)
    (done : List Char) :
    fillFrom bindings done (cs ++ rest) = fillFrom bindings (cs.reverse ++ done) rest := by
  induction cs generalizing done with
  | nil => rfl
  | cons c cs ih =>
    obtain ⟨hc, hcs⟩ := Nat.forall_lt_succ_left.1 h
    have hread : readPlaceholder? (c :: (cs ++ rest)) = none := readPlaceholder?_eq_none_iff.2 hc
    rw [List.cons_append, fillFrom_cons hread, ih hcs, List.reverse_cons, List.append_assoc]
    rfl

/-- **A text is filled in by its tight layout.** -/
theorem fillFrom_tight {layout : Layout} (h : layout.Tight) (bindings : Bindings)
    (done : List Char) :
    fillFrom bindings done (layout.render Placeholder.text) =
      (layout.fillWith bindings).map (done.reverse ++ ·) := by
  induction layout generalizing done with
  | literal cs =>
    have hfill : fillFrom bindings done (cs ++ []) = fillFrom bindings (cs.reverse ++ done) [] :=
      fillFrom_literal (by simpa [Layout.Tight] using h) bindings done
    rw [List.append_nil, fillFrom_nil, List.reverse_append, List.reverse_reverse] at hfill
    exact hfill
  | placeholder cs p rest ih =>
    rw [Layout.render, fillFrom_literal h.1, fillFrom_text, Layout.fillWith]
    cases bindings.find? p.name with
    | none => rfl
    | some value =>
      simp only
      rw [ih h.2]
      cases rest.fillWith bindings with
      | error e => rfl
      | ok filled => simp [Except.map]

/-- If there are no braces between the placeholders of a layout, these are replaced and nothing
else. -/
theorem fillFrom_layout {bindings : Bindings} {layout : Layout} {value : Placeholder → String}
    (hvalues : ∀ p ∈ layout.placeholders, bindings.find? p.name = some (value p))
    (hbraces : ∀ cs ∈ layout.literals, '\x7b' ∉ cs) (done : List Char) :
    fillFrom bindings done (layout.render Placeholder.text) =
      .ok (done.reverse ++ layout.render fun p => (value p).toList) := by
  rw [fillFrom_tight (Layout.tight_of_not_mem hbraces), Layout.fillWith_eq_ok hvalues]
  rfl

/-- **All placeholders of a text are replaced at once.** The placeholders that stand in a text have
no character in common, and the text is cut into them and what is between them. If all their names
are defined, the result is the text with the values in their place. Else the leftmost one without a
value is reported. Variables that the placeholders do not name do not matter. -/
theorem fill_replaces (source : String) :
    (∀ {j k : ℕ} {p q : Placeholder}, p.StandsAt k source.toList → q.StandsAt j source.toList →
      (k = j ∧ p = q) ∨ k + p.text.length ≤ j ∨ j + q.text.length ≤ k) ∧
    ∃ layout : Layout, layout.render Placeholder.text = source.toList ∧
      (∀ (k : ℕ) (p : Placeholder), (k, p) ∈ layout.places 0 ↔ p.StandsAt k source.toList) ∧
      ∀ bindings : Bindings,
        (∀ value : Placeholder → String,
          (∀ (k : ℕ) (p : Placeholder), p.StandsAt k source.toList →
            bindings.find? p.name = some (value p)) →
            fill bindings source = .ok (String.ofList (layout.render fun p => (value p).toList))) ∧
        (∀ (k : ℕ) (p : Placeholder), p.StandsAt k source.toList → bindings.find? p.name = none →
          (∀ (j : ℕ) (q : Placeholder), j < k → q.StandsAt j source.toList →
            bindings.find? q.name ≠ none) →
            fill bindings source = .error (.undefined p.name)) ∧
        ∀ other : Bindings,
          (∀ (k : ℕ) (p : Placeholder), p.StandsAt k source.toList →
            other.find? p.name = bindings.find? p.name) →
            fill other source = fill bindings source := by
  obtain ⟨layout, htight, hsource⟩ := Layout.exists_tight source.toList
  have hplaces (k : ℕ) (p : Placeholder) :
      (k, p) ∈ layout.places 0 ↔ p.StandsAt k source.toList := by
    simp [htight.mem_places_iff, hsource]
  have hmem {p : Placeholder} (hp : p ∈ layout.placeholders) : ∃ k, p.StandsAt k source.toList := by
    rw [← layout.map_snd_places 0] at hp
    obtain ⟨⟨k, p⟩, hk, rfl⟩ := List.mem_map.1 hp
    exact ⟨k, (hplaces k p).1 hk⟩
  have hfill (bindings : Bindings) :
      fill bindings source = (layout.fillWith bindings).map String.ofList := by
    rw [fill, ← hsource, fillFrom_tight htight]
    cases layout.fillWith bindings <;> rfl
  refine ⟨fun hp hq => hp.disjoint hq, layout, hsource, hplaces, fun bindings =>
    ⟨fun value hvalue => ?_, fun k p hp hnone hbefore => ?_, fun other hsame => ?_⟩⟩
  · rw [hfill, Layout.fillWith_eq_ok fun p hp => (hmem hp).elim fun k => hvalue k p]
    rfl
  · rw [hfill, Layout.fillWith_eq_error ((hplaces k p).2 hp) hnone
      fun q hq hlt => hbefore _ _ hlt ((hplaces _ _).1 hq)]
    rfl
  · rw [hfill, hfill, Layout.fillWith_congr fun p hp => (hmem hp).elim fun k => hsame k p]

/-- A brace before a placeholder, and a name without a value before another one. -/
theorem fill_replaces_leftmost :
    fill [("y", "1")] "\x7b\x7b\x7bx\x7d\x7d - \x7b\x7by\x7d\x7d / \x7b\x7b z \x7d\x7d" =
      .error (.undefined "x") := by
  obtain ⟨hdisjoint, layout, -, -, hfill⟩ :=
    fill_replaces "\x7b\x7b\x7bx\x7d\x7d - \x7b\x7by\x7d\x7d / \x7b\x7b z \x7d\x7d"
  let p : Placeholder := ⟨[], 'x', [], [], nofun, rfl, nofun, nofun⟩
  have hp : p.StandsAt 1
      "\x7b\x7b\x7bx\x7d\x7d - \x7b\x7by\x7d\x7d / \x7b\x7b z \x7d\x7d".toList :=
    List.isPrefixOf_iff_prefix.1 rfl
  refine (hfill [("y", "1")]).2.1 1 p hp rfl fun j q hj hq => ?_
  have hlength := q.two_lt_length
  obtain ⟨rfl, -⟩ | h | h := hdisjoint hq hp
  all_goals omega

/-- A value is not searched, also if it is a placeholder together with the braces around it. -/
example :
    (fill [("x", "\x7by\x7d"), ("y", "1")] "\x7b\x7b\x7bx\x7d\x7d\x7d + \x7b\x7b x").toOption =
      some "\x7b\x7by\x7d\x7d + \x7b\x7b x" := by decide +kernel

end Template
end Reckoner
