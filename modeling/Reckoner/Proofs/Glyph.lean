/-
# Folding is final

A sign of the table and what it becomes take the same part in the normal form, which is none: they
are of class 0, begin no composite, end none and are none. So it makes no difference to composition
whether the signs are replaced before or after it (`compose_map_replace`), and a folded text is in
normal form. It has no signs of the table left, for what they become is ASCII and no sign is.
-/

import Reckoner.Glyph
import Reckoner.Proofs.Normal.Form

namespace Reckoner
namespace Glyph

open Text (Inert combiningClass composite? decomposition)

/-! ### The table -/

/-- The code points of the signs and of what they become. -/
def codes : ℕ :=
  Text.Codes.union (fun p => Text.Codes.range p.1.toNat p.1.toNat |||
    Text.Codes.range p.2.toNat p.2.toNat) table

/-- The table takes characters beyond ASCII to characters of ASCII. -/
theorem ascii_of_mem_table : ∀ p ∈ table, 0x7F < p.1.toNat ∧ p.2.toNat ≤ 0x7F := by
  decide

/-- No character of the table takes part in the normal form. -/
theorem inert_of_mem_table {p : Char × Char} (hp : p ∈ table) : Inert p.1 ∧ Inert p.2 := by
  have hdisjoint : (Text.unsettled ||| Text.firstCodes) &&& codes = 0 := by decide +kernel
  refine ⟨Text.inert_of_testBit hdisjoint (Text.Codes.testBit_union_of_mem hp ?_),
    Text.inert_of_testBit hdisjoint (Text.Codes.testBit_union_of_mem hp ?_)⟩ <;>
    simp [Text.Codes.testBit_range]

/-- A character is a sign of the table, or it stays. -/
theorem replace_cases (c : Char) :
    (∃ p ∈ table, p.1 = c ∧ replace c = p.2) ∨ (∀ p ∈ table, p.1 ≠ c) ∧ replace c = c := by
  cases h : table.lookup c with
  | none =>
    refine .inr ⟨fun p hp hc => ?_, by rw [replace, h]; rfl⟩
    simpa [hc] using List.lookup_eq_none_iff.1 h p hp
  | some v =>
    obtain ⟨before, behind, htable, -⟩ := List.lookup_eq_some_iff.1 h
    exact .inl ⟨(c, v), by simp [htable], rfl, by rw [replace, h]; rfl⟩

/-- Characters of ASCII are not replaced. -/
theorem replace_of_ascii {c : Char} (h : c.toNat ≤ 0x7F) : replace c = c := by
  obtain ⟨p, hp, rfl, -⟩ | ⟨-, hself⟩ := replace_cases c
  · exact absurd h (Nat.not_le.2 (ascii_of_mem_table p hp).1)
  · exact hself

/-- No character is replaced by one that is replaced itself. -/
theorem replace_ne_of_mem_table {p : Char × Char} (hp : p ∈ table) (c : Char) :
    replace c ≠ p.1 := by
  obtain ⟨q, hq, -, hvalue⟩ | ⟨hno, hself⟩ := replace_cases c
  · intro heq
    have hkey := (ascii_of_mem_table p hp).1
    rw [← heq, hvalue] at hkey
    exact absurd (ascii_of_mem_table q hq).2 (Nat.not_le.2 hkey)
  · rw [hself]
    exact (hno p hp).symm

/-- Replacing twice is replacing once. -/
theorem replace_replace (c : Char) : replace (replace c) = replace c := by
  obtain ⟨p, hp, -, hvalue⟩ | ⟨-, hself⟩ := replace_cases c
  · rw [hvalue, replace_of_ascii (ascii_of_mem_table p hp).2]
  · rw [hself, hself]

/-! ### Signs in the normal form -/

/-- A character is as much of a mark as what replaces it. -/
theorem combiningClass_replace (c : Char) : combiningClass (replace c) = combiningClass c := by
  obtain ⟨p, hp, rfl, hvalue⟩ | ⟨-, hself⟩ := replace_cases c
  · obtain ⟨hsign, hbecomes⟩ := inert_of_mem_table hp
    rw [hvalue, hbecomes.combiningClass, hsign.combiningClass]
  · rw [hself]

/-- What replaces a character that is not decomposed is not decomposed either. -/
theorem decomposition_replace {c : Char} (h : decomposition c = [c]) :
    decomposition (replace c) = [replace c] := by
  obtain ⟨p, hp, rfl, hvalue⟩ | ⟨-, hself⟩ := replace_cases c
  · rw [hvalue, (Text.of_ascii (ascii_of_mem_table p hp).2).1]
  · rw [hself, h]

/-- Two characters compose as those do that replace them. -/
theorem composite?_replace (a b : Char) :
    composite? (replace a) (replace b) = (composite? a b).map replace := by
  obtain ⟨p, hp, rfl, hvalue⟩ | ⟨-, ha⟩ := replace_cases a
  · obtain ⟨hsign, hbecomes⟩ := inert_of_mem_table hp
    rw [hvalue, hbecomes.joins, hsign.joins, Option.map_none]
  obtain ⟨p, hp, rfl, hvalue⟩ | ⟨-, hb⟩ := replace_cases b
  · obtain ⟨hsign, hbecomes⟩ := inert_of_mem_table hp
    rw [hvalue, hsign.composite? a, hbecomes.composite? (replace a), Option.map_none]
  rw [ha, hb]
  cases hwhole : composite? a b with
  | none => rfl
  | some whole =>
    obtain ⟨p, hp, rfl, -⟩ | ⟨-, hself⟩ := replace_cases whole
    · exact absurd hwhole ((inert_of_mem_table hp).1.ne_composite a b)
    · rw [Option.map_some, hself]

/-- **Replacing commutes with composing**, so it may be done last. -/
theorem compose_map_replace (cs : List Char) :
    Text.compose (cs.map replace) = (Text.compose cs).map replace :=
  Text.compose_map combiningClass_replace composite?_replace cs

/-- A folded text is its own normal form. -/
theorem normalForm_foldChars (cs : List Char) : Text.normalForm (foldChars cs) = foldChars cs := by
  have hcanonical := Text.canonical_reorder_decompose cs
  have hreplaced := hcanonical.map combiningClass_replace fun c => decomposition_replace
  calc Text.normalForm (foldChars cs)
      = Text.normalForm (Text.compose ((Text.reorder (Text.decompose cs)).map replace)) := by
        rw [compose_map_replace, ← Text.normalForm, ← foldChars]
    _ = Text.compose ((Text.reorder (Text.decompose cs)).map replace) :=
        Text.normalForm_compose hreplaced
    _ = foldChars cs := by rw [compose_map_replace, ← Text.normalForm, ← foldChars]

/-- Folding the characters twice is folding them once. -/
theorem foldChars_foldChars (cs : List Char) : foldChars (foldChars cs) = foldChars cs := by
  rw [foldChars, normalForm_foldChars, foldChars, List.map_map]
  exact List.map_congr_left fun c _ => replace_replace c

/-- Characters of ASCII are folded to themselves. -/
theorem foldChars_of_ascii {cs : List Char} (h : ∀ c ∈ cs, c.toNat ≤ 0x7F) : foldChars cs = cs := by
  rw [foldChars, Text.normalForm_of_ascii h]
  exact (List.map_congr_left fun c hc => replace_of_ascii (h c hc)).trans (List.map_id' cs)

/-- Behind a text that folds to inert characters the rest folds as it does alone. -/
theorem foldChars_append {xs : List Char} (h : ∀ c ∈ foldChars xs, Inert c) (ys : List Char) :
    foldChars (xs ++ ys) = foldChars xs ++ foldChars ys := by
  have hinert : ∀ d ∈ Text.normalForm xs, Inert d := fun d hd => by
    obtain ⟨p, hp, rfl, -⟩ | ⟨-, hself⟩ := replace_cases d
    · exact (inert_of_mem_table hp).1
    · exact hself ▸ h _ (List.mem_map_of_mem hd)
  rw [foldChars, Text.normalForm_append hinert, List.map_append, ← foldChars, ← foldChars]

/-- **Folding is final.** A folded text is in normal form, has no signs of the table, and is what it
folds to; texts of ASCII are folded already. -/
theorem fold_final (text : String) :
    fold (fold text) = fold text ∧
      Text.normalForm (fold text).toList = (fold text).toList ∧
      (∀ c ∈ (fold text).toList, ∀ p ∈ table, c ≠ p.1) ∧
      ((∀ c ∈ text.toList, c.toNat ≤ 0x7F) → fold text = text) := by
  refine ⟨?_, ?_, fun c hc p hp => ?_, fun h => ?_⟩
  · rw [fold, fold, String.toList_ofList, foldChars_foldChars]
  · rw [fold, String.toList_ofList, normalForm_foldChars]
  · rw [fold, String.toList_ofList, foldChars] at hc
    obtain ⟨b, -, rfl⟩ := List.mem_map.1 hc
    exact replace_ne_of_mem_table hp b
  · rw [fold, foldChars_of_ascii h, String.ofList_toList]

/-- A text of ASCII with several operators. -/
theorem fold_final_ascii :
    (∀ c ∈ "12 * (x / 3)".toList, c.toNat ≤ 0x7F) ∧ fold "12 * (x / 3)" = "12 * (x / 3)" := by
  have hall : "12 * (x / 3)".toList.all fun c => c.toNat ≤ 0x7F := by decide
  have h (c : Char) (hc : c ∈ "12 * (x / 3)".toList) : c.toNat ≤ 0x7F :=
    of_decide_eq_true (List.all_eq_true.1 hall c hc)
  exact ⟨h, (fold_final "12 * (x / 3)").2.2.2 h⟩

end Glyph
end Reckoner
