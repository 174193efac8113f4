/-
# The normal form is final

Composing undoes what the first two passes did, and no more: the passes take a composed text back to
what was composed (`reorder_decompose_compose`). So a normal form is its own normal form
(`normalForm_normalForm`).

What is composed is a *canonical* text: its characters decompose no further and its marks are in
order. While it is composed the invariant is that the passes take the characters so far back to the
part that was read (`Composing.Reads`). A mark that joins the letter is taken out from behind marks
that did not join it, and it finds its way back since its class is another than theirs
(`foldl_pushOrdered_comm`).

Characters that take no part keep what stands behind them apart: its normal form is the one that it
has alone (`normalForm_append`).
-/

import Mathlib.Data.List.Chain
import Reckoner.Proofs.Normal.Table

namespace Reckoner
namespace Text

/-! ### Order -/

/-- That `c` may stand right behind `d`. -/
def MayFollow (c d : Char) : Prop := combiningClass c = 0 ∨ combiningClass d ≤ combiningClass c

/-- A mark that may follow stays where it is. -/
theorem pushOrdered_of_isChain {ds : List Char} {c : Char} (h : (c :: ds).IsChain MayFollow) :
    pushOrdered ds c = c :: ds := by
  rw [pushOrdered]
  split_ifs with hclass
  · rfl
  cases ds with
  | nil => rfl
  | cons d ds =>
    obtain hzero | hle := (List.isChain_cons_cons.1 h).1
    · exact absurd hzero hclass
    · rw [insertMark, if_neg (Nat.not_lt.2 hle)]

/-- A mark that has to go further back leaves the others in order. -/
theorem isChain_cons_insertMark {c d : Char} {ds : List Char} (h : (d :: ds).IsChain MayFollow)
    (hlt : combiningClass c < combiningClass d) :
    (d :: insertMark (combiningClass c) c ds).IsChain MayFollow := by
  induction ds generalizing d with
  | nil => exact .cons_cons (.inr hlt.le) (.singleton c)
  | cons e es ih =>
    obtain ⟨hhead, htail⟩ := List.isChain_cons_cons.1 h
    rw [insertMark]
    split_ifs with he
    · exact .cons_cons hhead (ih htail he)
    · exact .cons_cons (.inr hlt.le) (.cons_cons (.inr (Nat.not_lt.1 he)) htail)

/-- Putting a character in its place keeps the order. -/
theorem isChain_pushOrdered {ds : List Char} (h : ds.IsChain MayFollow) (c : Char) :
    (pushOrdered ds c).IsChain MayFollow := by
  rw [pushOrdered]
  split_ifs with hclass
  · exact h.cons fun _ _ => .inl hclass
  cases ds with
  | nil => exact .singleton c
  | cons d ds =>
    rw [insertMark]
    split_ifs with hd
    · exact isChain_cons_insertMark h hd
    · exact .cons_cons (.inr (Nat.not_lt.1 hd)) h

/-- So does putting several in their places. -/
theorem isChain_foldl_pushOrdered {ds : List Char} (h : ds.IsChain MayFollow) (cs : List Char) :
    (cs.foldl pushOrdered ds).IsChain MayFollow := by
  induction cs generalizing ds with
  | nil => exact h
  | cons c cs ih => exact ih (isChain_pushOrdered h c)

/-- Characters that are in order stay in it. -/
theorem foldl_pushOrdered_of_isChain {cs ds : List Char}
    (h : (cs.reverse ++ ds).IsChain MayFollow) : cs.foldl pushOrdered ds = cs.reverse ++ ds := by
  induction cs generalizing ds with
  | nil => rfl
  | cons c cs ih =>
    rw [List.reverse_cons, List.append_assoc, List.singleton_append] at h ⊢
    rw [List.foldl_cons, pushOrdered_of_isChain h.right_of_append, ih h]

/-- A mark that is put in its place is one character more. -/
theorem insertMark_perm (k : ℕ) (c : Char) (ds : List Char) :
    (insertMark k c ds).Perm (c :: ds) := by
  induction ds with
  | nil => exact .refl _
  | cons d ds ih =>
    rw [insertMark]
    split_ifs
    · exact (ih.cons d).trans (.swap c d ds)
    · exact .refl _

/-- No character is lost on the way to its place. -/
theorem foldl_pushOrdered_perm (cs ds : List Char) :
    (cs.foldl pushOrdered ds).Perm (cs ++ ds) := by
  induction cs generalizing ds with
  | nil => exact .refl _
  | cons c cs ih =>
    have hpush : (pushOrdered ds c).Perm (c :: ds) := by
      rw [pushOrdered]
      split_ifs
      · exact .refl _
      · exact insertMark_perm _ c ds
    exact (ih _).trans ((hpush.append_left cs).trans List.perm_middle)

/-- **Reordering loses no character** and adds none. -/
theorem reorder_perm (cs : List Char) : (reorder cs).Perm cs := by
  have h := foldl_pushOrdered_perm cs []
  rw [List.append_nil] at h
  exact (List.reverse_perm _).trans h

/-- Marks of different classes may be put in their places in either order. -/
theorem insertMark_comm {j k : ℕ} (h : j ≠ k) {b c : Char} (hb : combiningClass b = j)
    (hc : combiningClass c = k) (ds : List Char) :
    insertMark k c (insertMark j b ds) = insertMark j b (insertMark k c ds) := by
  induction ds with
  | nil =>
    simp only [insertMark, hb, hc]
    split_ifs <;> first | rfl | omega
  | cons d ds ih =>
    by_cases hj : j < combiningClass d <;> by_cases hk : k < combiningClass d
    · simp only [insertMark, if_pos hj, if_pos hk, ih]
    · have hlt : j < k := by omega
      simp only [insertMark, if_pos hj, if_neg hk, hc, if_pos hlt]
    · have hlt : k < j := by omega
      simp only [insertMark, if_neg hj, if_pos hk, hb, if_pos hlt]
    · simp only [insertMark, if_neg hj, if_neg hk, hb, hc]
      split_ifs <;> first | rfl | omega

/-- A mark may be put in order after marks of other classes that it stands before. -/
theorem foldl_pushOrdered_comm {c : Char} {ms : List Char}
    (h : ∀ m ∈ ms, combiningClass m ≠ 0 ∧ combiningClass m < combiningClass c) (ds : List Char) :
    (c :: ms).foldl pushOrdered ds = (ms ++ [c]).foldl pushOrdered ds := by
  induction ms generalizing ds with
  | nil => rfl
  | cons m ms ih =>
    obtain ⟨⟨hm, hlt⟩, hms⟩ := List.forall_mem_cons.1 h
    have hswap : pushOrdered (pushOrdered ds c) m = pushOrdered (pushOrdered ds m) c := by
      simp only [pushOrdered, if_neg hm, if_neg (Nat.ne_zero_of_lt hlt)]
      exact insertMark_comm hlt.ne' rfl rfl ds
    calc (c :: m :: ms).foldl pushOrdered ds
        = (c :: ms).foldl pushOrdered (pushOrdered ds m) := by
          rw [List.foldl_cons, List.foldl_cons, hswap, List.foldl_cons]
      _ = (m :: ms ++ [c]).foldl pushOrdered ds := ih hms _

/-! ### Canonical texts -/

/-- A text whose characters decompose no further and whose marks are in order. -/
structure Canonical (cs : List Char) : Prop where
  decomposition : ∀ c ∈ cs, decomposition c = [c]
  ordered : cs.reverse.IsChain MayFollow

/-- Texts are decomposed one after the other. -/
theorem decompose_append (cs ds : List Char) :
    decompose (cs ++ ds) = decompose cs ++ decompose ds :=
  List.flatMap_append

/-- A text of one character is decomposed as the character. -/
theorem decompose_singleton (c : Char) : decompose [c] = decomposition c :=
  List.flatMap_singleton _ c

/-- Characters that are not decomposed stay. -/
theorem decompose_eq_self {cs : List Char} (h : ∀ c ∈ cs, decomposition c = [c]) :
    decompose cs = cs := by
  rw [decompose, List.flatMap_congr h, List.flatMap_singleton']

/-- What is decomposed and put in order is canonical. -/
theorem canonical_reorder_decompose (cs : List Char) : Canonical (reorder (decompose cs)) where
  decomposition c hc := by
    obtain ⟨b, -, hb⟩ := List.mem_flatMap.1 ((reorder_perm _).mem_iff.1 hc)
    exact decomposition_of_mem_decomposition hb
  ordered := by
    rw [reorder, List.reverse_reverse]
    exact isChain_foldl_pushOrdered .nil _

/-! ### Composition -/

namespace Composing

/-- That what is composed is taken back to `ds`, the text so far with its last character first, and
that the marks that joined no letter are in order. -/
structure Reads (s : Composing) (ds : List Char) : Prop where
  foldl_pushOrdered : (decompose s.flush.reverse).foldl pushOrdered [] = ds
  marks : ∀ m ∈ s.marks, combiningClass m ≠ 0 ∧ decomposition m = [m]
  sorted : s.marks.Pairwise fun a b => combiningClass b ≤ combiningClass a
  le_last : ∀ m ∈ s.marks, ∃ d ∈ ds.head?, combiningClass m ≤ combiningClass d

/-- At the start nothing is read. -/
theorem reads_start : start.Reads [] := ⟨rfl, nofun, .nil, nofun⟩

/-- The characters so far with one more. -/
theorem Reads.foldl_concat {s : Composing} {ds : List Char} (h : s.Reads ds) {c : Char}
    (hfull : Text.decomposition c = [c]) (hc : (c :: ds).IsChain MayFollow) :
    (decompose (c :: s.flush).reverse).foldl pushOrdered [] = c :: ds := by
  rw [List.reverse_cons, decompose_append, decompose_singleton, hfull, List.foldl_append,
    h.foldl_pushOrdered]
  exact pushOrdered_of_isChain hc

/-- A character that joins the letter makes a composite with it. -/
theorem composite_of_joined? {s : Composing} {c whole : Char} (h : s.joined? c = some whole) :
    ∃ letter, s.letter = some letter ∧ composite? letter c = some whole := by
  rw [joined?, Option.bind_eq_bind, Option.bind_eq_some_iff] at h
  obtain ⟨letter, hletter, h⟩ := h
  refine ⟨letter, hletter, ?_⟩
  split at h
  · exact h
  · exact (Option.ite_none_right_eq_some.1 h).2

/-- What stands before a character that joins the letter has a lower class. -/
theorem Reads.lt_of_joined? {s : Composing} {ds : List Char} (h : s.Reads ds) {c whole : Char}
    (hjoined : s.joined? c = some whole) :
    ∀ m ∈ s.marks, combiningClass m < combiningClass c := by
  rw [joined?, Option.bind_eq_bind, Option.bind_eq_some_iff] at hjoined
  obtain ⟨letter, -, hjoined⟩ := hjoined
  have hsorted := h.sorted
  cases hmarks : s.marks with
  | nil => exact nofun
  | cons mark marks =>
    rw [hmarks] at hsorted
    simp only [hmarks, Option.ite_none_right_eq_some] at hjoined
    exact List.forall_mem_cons.2 ⟨hjoined.1, fun m hm =>
      (List.rel_of_pairwise_cons hsorted hm).trans_lt hjoined.1⟩

/-- What was composed so far decomposes into the text done, the letter and the marks. -/
theorem decompose_flush {s : Composing} (h : ∀ m ∈ s.marks, Text.decomposition m = [m])
    {letter : Char} (hletter : s.letter = some letter) :
    decompose s.flush.reverse =
      decompose s.done.reverse ++ (Text.decomposition letter ++ s.marks.reverse) := by
  have hmarks : decompose s.marks.reverse = s.marks.reverse :=
    decompose_eq_self fun m hm => h m (List.mem_reverse.1 hm)
  simp only [flush, hletter, Option.toList_some, List.reverse_append, List.reverse_singleton,
    decompose_append, decompose_singleton, hmarks, List.append_assoc]

/-- A composite decomposes into the letter and the character that joined it, which goes back behind
the marks. -/
theorem Reads.foldl_joined {s : Composing} {ds : List Char} (h : s.Reads ds) {letter c whole : Char}
    (hletter : s.letter = some letter) (hwhole : composite? letter c = some whole)
    (hlt : ∀ m ∈ s.marks, combiningClass m < combiningClass c)
    (hc : (c :: ds).IsChain MayFollow) :
    (decompose { s with letter := some whole }.flush.reverse).foldl pushOrdered [] = c :: ds := by
  have hmarks : ∀ m ∈ s.marks, Text.decomposition m = [m] := fun m hm => (h.marks m hm).2
  have hbefore := h.foldl_pushOrdered
  rw [decompose_flush hmarks hletter, ← List.append_assoc] at hbefore
  have hswap : ∀ m ∈ s.marks.reverse,
      combiningClass m ≠ 0 ∧ combiningClass m < combiningClass c := fun m hm =>
    ⟨(h.marks m (List.mem_reverse.1 hm)).1, hlt m (List.mem_reverse.1 hm)⟩
  generalize hbase : decompose s.done.reverse ++ Text.decomposition letter = base at hbefore
  calc (decompose { s with letter := some whole }.flush.reverse).foldl pushOrdered []
      = (base ++ c :: s.marks.reverse).foldl pushOrdered [] := by
        rw [decompose_flush (s := { s with letter := some whole }) hmarks rfl,
          decomposition_of_composite hwhole, ← hbase]
        simp only [List.append_assoc, List.singleton_append]
    _ = (base ++ s.marks.reverse ++ [c]).foldl pushOrdered [] := by
        rw [List.foldl_append, foldl_pushOrdered_comm hswap, ← List.foldl_append,
          List.append_assoc]
    _ = pushOrdered ds c := by rw [List.foldl_append, hbefore, List.foldl_cons, List.foldl_nil]
    _ = c :: ds := pushOrdered_of_isChain hc

/-- The marks stand no further back than the next character, unless that is a letter. -/
theorem Reads.le_next {s : Composing} {ds : List Char} (h : s.Reads ds) {c : Char}
    (hclass : combiningClass c ≠ 0) (hc : (c :: ds).IsChain MayFollow) :
    ∀ m ∈ s.marks, combiningClass m ≤ combiningClass c := by
  intro m hm
  obtain ⟨d, hd, hle⟩ := h.le_last m hm
  exact hle.trans ((hc.rel_head? hd).resolve_left hclass)

/-- One character more. -/
theorem Reads.next {s : Composing} {ds : List Char} (h : s.Reads ds) {c : Char}
    (hfull : Text.decomposition c = [c]) (hc : (c :: ds).IsChain MayFollow) :
    (s.next c).Reads (c :: ds) := by
  rw [Composing.next]
  split
  case h_1 whole hjoined =>
    obtain ⟨letter, hletter, hwhole⟩ := composite_of_joined? hjoined
    have hlt := h.lt_of_joined? hjoined
    refine ⟨h.foldl_joined hletter hwhole hlt hc, h.marks, h.sorted, fun m hm => ?_⟩
    exact ⟨c, rfl, (hlt m hm).le⟩
  case h_2 =>
    split_ifs with hclass
    · exact ⟨h.foldl_concat hfull hc, nofun, .nil, nofun⟩
    · have hle := h.le_next hclass hc
      refine ⟨h.foldl_concat hfull hc, List.forall_mem_cons.2 ⟨⟨hclass, hfull⟩, h.marks⟩,
        .cons hle h.sorted, fun m hm => ⟨c, rfl, ?_⟩⟩
      obtain rfl | hm := List.mem_cons.1 hm
      · exact le_rfl
      · exact hle m hm

/-- All characters of a canonical text. -/
theorem Reads.foldl {s : Composing} {cs ds : List Char} (h : s.Reads ds)
    (hfull : ∀ c ∈ cs, Text.decomposition c = [c]) (hcs : (cs.reverse ++ ds).IsChain MayFollow) :
    (cs.foldl Composing.next s).Reads (cs.reverse ++ ds) := by
  induction cs generalizing s ds with
  | nil => exact h
  | cons c cs ih =>
    rw [List.reverse_cons, List.append_assoc, List.singleton_append] at hcs ⊢
    obtain ⟨hc, hfull⟩ := List.forall_mem_cons.1 hfull
    exact ih (h.next hc hcs.right_of_append) hfull hcs

end Composing

/-- The first two passes take a composed text back. -/
theorem reorder_decompose_compose {cs : List Char} (h : Canonical cs) :
    reorder (decompose (compose cs)) = cs := by
  have hreads := Composing.reads_start.foldl h.decomposition
    (by rw [List.append_nil]; exact h.ordered)
  rw [reorder, compose, hreads.foldl_pushOrdered, List.append_nil, List.reverse_reverse]

/-- **A canonical text that is composed is in normal form.** -/
theorem normalForm_compose {cs : List Char} (h : Canonical cs) :
    normalForm (compose cs) = compose cs := by
  rw [normalForm, reorder_decompose_compose h]

/-- **The normal form is final.** -/
theorem normalForm_normalForm (cs : List Char) : normalForm (normalForm cs) = normalForm cs :=
  normalForm_compose (canonical_reorder_decompose cs)

/-! ### Characters of composed texts -/

namespace Composing

/-- Composition adds no characters but composites. -/
theorem mem_flush_next {s : Composing} {c d : Char} (h : c ∈ (s.next d).flush) :
    c ∈ s.flush ∨ c = d ∨ ∃ a b, composite? a b = some c := by
  rw [next] at h
  split at h
  case h_1 whole hjoined =>
    obtain ⟨letter, -, hwhole⟩ := composite_of_joined? hjoined
    simp only [flush, List.mem_append, Option.mem_toList, Option.some.injEq] at h ⊢
    obtain hmark | rfl | hdone := h
    · exact .inl (.inl hmark)
    · exact .inr (.inr ⟨letter, d, hwhole⟩)
    · exact .inl (.inr (.inr hdone))
  case h_2 =>
    have hcons : c ∈ d :: s.flush := by split_ifs at h <;> exact h
    obtain rfl | h := List.mem_cons.1 hcons
    · exact .inr (.inl rfl)
    · exact .inl h

/-- A character that comes out of a composition went in or is a composite. -/
theorem mem_flush_foldl {s : Composing} {cs : List Char} {c : Char}
    (h : c ∈ (cs.foldl next s).flush) :
    c ∈ s.flush ∨ c ∈ cs ∨ ∃ a b, composite? a b = some c := by
  induction cs generalizing s with
  | nil => exact .inl h
  | cons d cs ih =>
    obtain hnext | hrest | hwhole := ih h
    · obtain hflush | rfl | hwhole := mem_flush_next hnext
      · exact .inl hflush
      · exact .inr (.inl (.head cs))
      · exact .inr (.inr hwhole)
    · exact .inr (.inl (.tail d hrest))
    · exact .inr (.inr hwhole)

/-- A settled character stays behind what came before it. -/
theorem flush_next_of_settled (s : Composing) {d : Char} (h : Settled d) :
    (s.next d).flush = d :: s.flush := by
  have hjoined : s.joined? d = none := by
    by_contra hsome
    obtain ⟨whole, hwhole⟩ := Option.ne_none_iff_exists'.1 hsome
    obtain ⟨letter, -, hcomposite⟩ := composite_of_joined? hwhole
    cases (h.composite? letter).symm.trans hcomposite
  rw [next, hjoined]
  simp only [if_pos h.combiningClass]
  rfl

/-- So do several settled characters. -/
theorem flush_foldl_of_settled (s : Composing) {ds : List Char} (h : ∀ d ∈ ds, Settled d) :
    (ds.foldl next s).flush = ds.reverse ++ s.flush := by
  induction ds generalizing s with
  | nil => rfl
  | cons d ds ih =>
    obtain ⟨hd, hds⟩ := List.forall_mem_cons.1 h
    rw [List.foldl_cons, ih _ hds, flush_next_of_settled s hd, List.reverse_cons,
      List.append_assoc, List.singleton_append]

end Composing

/-- Composing a text adds only composites. -/
theorem mem_or_composite_of_mem_compose {cs : List Char} {c : Char} (h : c ∈ compose cs) :
    c ∈ cs ∨ ∃ a b, composite? a b = some c :=
  (Composing.mem_flush_foldl (List.mem_reverse.1 h)).resolve_left nofun

/-- Settled characters stay in their places. -/
theorem reorder_of_settled {ds : List Char} (h : ∀ d ∈ ds, Settled d) : reorder ds = ds := by
  have hordered : (ds.reverse ++ []).IsChain MayFollow := by
    rw [List.append_nil]
    refine List.Pairwise.isChain (List.pairwise_of_forall_mem_list fun c hc d _ => ?_)
    exact .inl (h c (List.mem_reverse.1 hc)).combiningClass
  rw [reorder, foldl_pushOrdered_of_isChain hordered, List.append_nil, List.reverse_reverse]

/-- Of settled characters nothing is composed. -/
theorem normalForm_of_settled {cs : List Char} (h : ∀ d ∈ decompose cs, Settled d) :
    normalForm cs = decompose cs := by
  rw [normalForm, reorder_of_settled h, compose, Composing.flush_foldl_of_settled _ h]
  exact (congrArg List.reverse (List.append_nil _)).trans (List.reverse_reverse _)

/-- **A text of ASCII is its own normal form.** -/
theorem normalForm_of_ascii {cs : List Char} (h : ∀ c ∈ cs, c.toNat ≤ 0x7F) :
    normalForm cs = cs := by
  have hself : decompose cs = cs := decompose_eq_self fun c hc => (of_ascii (h c hc)).1
  rw [normalForm_of_settled (hself.symm ▸ fun c hc => (of_ascii (h c hc)).2), hself]

/-- A text that becomes settled characters decomposes into them. -/
theorem decompose_eq_normalForm {cs : List Char} (h : ∀ d ∈ normalForm cs, Settled d) :
    decompose cs = normalForm cs := by
  have hcanonical := canonical_reorder_decompose cs
  have hself : decompose (normalForm cs) = normalForm cs :=
    decompose_eq_self fun d hd => hcanonical.decomposition d <|
      (mem_or_composite_of_mem_compose hd).resolve_right fun ⟨a, b, hwhole⟩ =>
        (h d hd).ne_composite a b hwhole
  have hreordered : reorder (decompose cs) = normalForm cs := by
    rw [← reorder_decompose_compose hcanonical, ← normalForm, hself, reorder_of_settled h]
  have hsettled : ∀ d ∈ decompose cs, Settled d := fun d hd =>
    h d (hreordered ▸ (reorder_perm _).mem_iff.2 hd)
  exact (reorder_of_settled hsettled).symm.trans hreordered

/-! ### Inert characters in front -/

/-- No mark goes back beyond a character that is no mark. -/
theorem pushOrdered_concat {d : Char} (hd : combiningClass d = 0) (ds : List Char) (c : Char) :
    pushOrdered (ds ++ [d]) c = pushOrdered ds c ++ [d] := by
  rw [pushOrdered, pushOrdered]
  split_ifs
  · rfl
  induction ds with
  | nil =>
    have hnot : ¬combiningClass c < combiningClass d := hd ▸ Nat.not_lt_zero _
    simp only [List.nil_append, insertMark, if_neg hnot]
    rfl
  | cons e es ih =>
    rw [List.cons_append, insertMark, insertMark]
    split_ifs
    · rw [ih, List.cons_append]
    · rfl

/-- Behind a character that is no mark, marks are put in order by themselves. -/
theorem reorder_cons {d : Char} (hd : combiningClass d = 0) (cs : List Char) :
    reorder (d :: cs) = d :: reorder cs := by
  have hrun (ds : List Char) :
      cs.foldl pushOrdered (ds ++ [d]) = cs.foldl pushOrdered ds ++ [d] := by
    induction cs generalizing ds with
    | nil => rfl
    | cons c cs ih => rw [List.foldl_cons, pushOrdered_concat hd, ih, List.foldl_cons]
  have hpush : pushOrdered [] d = [] ++ [d] := by rw [pushOrdered, if_pos hd]; rfl
  rw [reorder, List.foldl_cons, hpush, hrun, List.reverse_concat, reorder]

namespace Composing

/-- What is finished does not matter to composition. -/
theorem flush_foldl_done (base : List Char) (s : Composing) (cs : List Char) :
    (cs.foldl next { s with done := s.done ++ base }).flush = (cs.foldl next s).flush ++ base := by
  induction cs generalizing s with
  | nil => simp [flush]
  | cons c cs ih =>
    have hnext : next { s with done := s.done ++ base } c =
        { s.next c with done := (s.next c).done ++ base } := by
      rw [next, next, show joined? { s with done := s.done ++ base } c = s.joined? c from rfl]
      cases s.joined? c with
      | some whole => rfl
      | none => split_ifs <;> simp [flush]
    rw [List.foldl_cons, hnext, ih, List.foldl_cons]

/-- A letter that nothing joins might as well be finished. -/
theorem flush_foldl_letter {d : Char} (hd : ∀ c, composite? d c = none) (marks cs : List Char) :
    (cs.foldl next ⟨[], some d, marks⟩).flush = (cs.foldl next ⟨[], none, marks⟩).flush ++ [d] := by
  induction cs generalizing marks with
  | nil => simp [flush]
  | cons c cs ih =>
    have hjoined : joined? ⟨[], some d, marks⟩ c = none := by
      by_contra hsome
      obtain ⟨whole, hwhole⟩ := Option.ne_none_iff_exists'.1 hsome
      obtain ⟨letter, hletter, hcomposite⟩ := composite_of_joined? hwhole
      cases hletter
      cases (hd c).symm.trans hcomposite
    rw [List.foldl_cons, List.foldl_cons, next, hjoined, next,
      show joined? ⟨[], none, marks⟩ c = none from rfl]
    by_cases hclass : combiningClass c = 0
    · simp only [if_pos hclass]
      simpa [flush] using flush_foldl_done [d] ⟨marks, some c, []⟩ cs
    · simpa only [if_neg hclass] using ih (c :: marks)

end Composing

/-- Behind an inert character a text is composed by itself. -/
theorem compose_cons {d : Char} (hd : Inert d) (cs : List Char) :
    compose (d :: cs) = d :: compose cs := by
  have hfirst : Composing.start.next d = ⟨[], some d, []⟩ := by
    rw [Composing.next]
    exact if_pos hd.combiningClass
  rw [compose, List.foldl_cons, hfirst, Composing.flush_foldl_letter hd.joins, List.reverse_concat]
  rfl

/-- The normal form behind a text that becomes inert characters is that of the rest alone. -/
theorem normalForm_append {xs : List Char} (h : ∀ d ∈ normalForm xs, Inert d) (ys : List Char) :
    normalForm (xs ++ ys) = normalForm xs ++ normalForm ys := by
  have hfront (ds : List Char) (hds : ∀ d ∈ ds, Inert d) :
      compose (reorder (ds ++ decompose ys)) = ds ++ normalForm ys := by
    induction ds with
    | nil => rfl
    | cons d ds ih =>
      obtain ⟨hd, hds⟩ := List.forall_mem_cons.1 hds
      rw [List.cons_append, reorder_cons hd.combiningClass, compose_cons hd, ih hds,
        List.cons_append]
  rw [normalForm, decompose_append, decompose_eq_normalForm fun d hd => (h d hd).toSettled,
    hfront _ h]

/-! ### Exchanging characters -/

namespace Composing

/-- The same composition of other characters. -/
def map (f : Char → Char) (s : Composing) : Composing :=
  ⟨s.done.map f, s.letter.map f, s.marks.map f⟩

/-- What comes out of the composition of other characters are these characters. -/
theorem flush_map (f : Char → Char) (s : Composing) : (s.map f).flush = s.flush.map f := by
  cases h : s.letter <;> simp [flush, map, h]

end Composing

section Exchange

variable {f : Char → Char} (hclass : ∀ c, combiningClass (f c) = combiningClass c)
  (hcomposite : ∀ a b, composite? (f a) (f b) = (composite? a b).map f)

include hclass hcomposite

/-- Other characters join alike, if they are marks and make composites alike. -/
theorem Composing.joined?_map (s : Composing) (c : Char) :
    (s.map f).joined? (f c) = (s.joined? c).map f := by
  obtain ⟨done, letter, marks⟩ := s
  cases letter with
  | none => rfl
  | some letter =>
    cases marks with
    | nil => exact hcomposite letter c
    | cons mark marks =>
      simp only [joined?, map, Option.map_some, List.map_cons, Option.bind_eq_bind,
        Option.bind_some, hclass, hcomposite]
      split_ifs <;> rfl

/-- Composition goes on alike with other characters. -/
theorem Composing.next_map (s : Composing) (c : Char) :
    (s.map f).next (f c) = (s.next c).map f := by
  rw [next, next, joined?_map hclass hcomposite, hclass, flush_map]
  cases s.joined? c with
  | some whole => rfl
  | none => simp only [Option.map_none]; split_ifs <;> rfl

/-- Exchanging characters for others of the same class and with the same composites before or after
composition comes to the same. -/
theorem compose_map (cs : List Char) : compose (cs.map f) = (compose cs).map f := by
  have hrun : ∀ s : Composing,
      (cs.map f).foldl Composing.next (s.map f) = (cs.foldl Composing.next s).map f := by
    induction cs with
    | nil => exact fun _ => rfl
    | cons c cs ih =>
      intro s
      rw [List.map_cons, List.foldl_cons, Composing.next_map hclass hcomposite, ih, List.foldl_cons]
  rw [compose, compose, List.map_reverse, ← Composing.flush_map, ← hrun]
  rfl

end Exchange

/-- A canonical text stays canonical with other characters of the same classes. -/
theorem Canonical.map {f : Char → Char} (hclass : ∀ c, combiningClass (f c) = combiningClass c)
    (hfull : ∀ c, Text.decomposition c = [c] → Text.decomposition (f c) = [f c]) {cs : List Char}
    (h : Canonical cs) : Canonical (cs.map f) where
  decomposition := List.forall_mem_map.2 fun c hc => hfull c (h.decomposition c hc)
  ordered := by
    rw [← List.map_reverse]
    refine List.isChain_map_of_isChain f (fun a b hab => ?_) h.ordered
    rwa [MayFollow, hclass, hclass]

end Text
end Reckoner
