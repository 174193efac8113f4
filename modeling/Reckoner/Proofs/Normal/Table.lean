/-
# The tables of the normal form

What the tables say about thousands of characters is computed once and stated here for all of them:

| statement | what it says |
| --- | --- |
| `mappingOf?_of_mem` | rows ascend, so that the row of a code point is the one that is found |
| `decomposition_of_mem_decomposition` | what a character decomposes into decomposes no further |
| `decomposition_of_composite` | a composite decomposes into what its parts decompose into |
| `settled_of_testBit` | which characters neither move nor join a letter, and are no composites |
| `inert_of_testBit` | which of them nothing joins |

Two devices keep the computation small. A set of code points is a number, whose digits in base two
tell which they are, so that two sets are compared by a conjunction of numbers (`Codes`). And the
first code points of the rows are found in a search tree (`Index`), whose order is not relied upon:
what it finds is a row of the table in any case.
-/

import Mathlib.Data.Nat.Bitwise
import Reckoner.Text.Blank
import Reckoner.Text.Normal.Form

namespace Reckoner
namespace Text

/-- A character that is made from a code point has it. -/
theorem toNat_ofNat {n : ℕ} (h : n.isValidChar) : (Char.ofNat n).toNat = n := by
  rw [Char.ofNat, dif_pos h]
  rfl

/-- The syllables are the characters of a range. -/
theorem Hangul.isSyllable_iff {c : Char} :
    isSyllable c ↔ 0xAC00 ≤ c.toNat ∧ c.toNat ≤ 0xD7A3 := by
  rw [isSyllable, syllableBase, Bool.and_eq_true, decide_eq_true_eq, decide_eq_true_eq]
  omega

/-! ### Sets of code points -/

namespace Codes

/-- The code points from `low` to `high`. -/
def range (low high : ℕ) : ℕ := (1 <<< (high + 1 - low) - 1) <<< low

/-- All code points of sets. -/
def union {α : Type} (f : α → ℕ) : List α → ℕ
  | [] => 0
  | a :: as => f a ||| union f as

/-- Membership in a range. -/
theorem testBit_range (low high n : ℕ) :
    (range low high).testBit n = (decide (low ≤ n) && decide (n ≤ high)) := by
  rw [range, Nat.testBit_shiftLeft, Nat.one_shiftLeft, Nat.testBit_two_pow_sub_one]
  by_cases hlow : low ≤ n
  · have hhigh : n - low < high + 1 - low ↔ n ≤ high := by omega
    simp only [hlow, hhigh]
  · simp only [hlow, decide_false, Bool.false_and]

/-- Membership in a union. -/
theorem testBit_union {α : Type} (f : α → ℕ) (as : List α) (n : ℕ) :
    (union f as).testBit n = as.any fun a => (f a).testBit n := by
  induction as with
  | nil => exact Nat.zero_testBit n
  | cons a as ih => rw [union, Nat.testBit_or, ih, List.any_cons]

/-- A member of one of the sets is in the union. -/
theorem testBit_union_of_mem {α : Type} {f : α → ℕ} {as : List α} {a : α} (ha : a ∈ as) {n : ℕ}
    (h : (f a).testBit n) : (union f as).testBit n := by
  rw [testBit_union]
  exact List.any_eq_true.2 ⟨a, ha, h⟩

/-- A code point between the ends is in the range. -/
theorem testBit_range_of_le {low high n : ℕ} (hlow : low ≤ n) (hhigh : n ≤ high) :
    (range low high).testBit n := by simp [testBit_range, hlow, hhigh]

/-- A member of one of two sets that have none in common. -/
theorem not_testBit_of_and_eq_zero {a b n : ℕ} (h : a &&& b = 0) (hb : b.testBit n) :
    a.testBit n = false := by
  have hand := congrArg (Nat.testBit · n) h
  simpa [Nat.testBit_and, hb] using hand

end Codes

/-! ### Rows of the decomposition table -/

/-- Whether rows ascend within the code points from `low` to `high`. -/
def Mapping.ascend (low high : ℕ) : List Mapping → Bool
  | [] => true
  | m :: ms =>
    Nat.ble low m.first && (Nat.ble m.first m.last && (Nat.ble m.last high &&
      ascend (m.last + 1) high ms))

/-- Whether blocks of rows ascend from `low` on. -/
def Mapping.blocksAscend (low : ℕ) : List (ℕ × List Mapping) → Bool
  | [] => true
  | b :: bs => Nat.ble low b.1 && (ascend low b.1 b.2 && blocksAscend (b.1 + 1) bs)

namespace Mapping

/-- Rows ascend if the first one lies in front of the others. -/
theorem ascend_cons {low high : ℕ} {m : Mapping} {ms : List Mapping} :
    ascend low high (m :: ms) ↔
      low ≤ m.first ∧ m.first ≤ m.last ∧ m.last ≤ high ∧ ascend (m.last + 1) high ms := by
  simp only [ascend, Bool.and_eq_true, Nat.ble_eq]

/-- Each of the rows that ascend is between their ends. -/
theorem bounds_of_ascend {low high : ℕ} {ms : List Mapping} (h : ascend low high ms) {m : Mapping}
    (hm : m ∈ ms) : low ≤ m.first ∧ m.first ≤ m.last ∧ m.last ≤ high := by
  induction ms generalizing low with
  | nil => cases hm
  | cons m' ms ih =>
    obtain ⟨hlow, hle, hhigh, h⟩ := ascend_cons.1 h
    obtain rfl | hm := List.mem_cons.1 hm
    · exact ⟨hlow, hle, hhigh⟩
    · obtain ⟨hlow', hle', hhigh'⟩ := ih h hm
      exact ⟨by omega, hle', hhigh'⟩

/-- Of rows that ascend, that of a code point is the first that does not end before it. -/
theorem find?_of_ascend {low high : ℕ} {ms : List Mapping} (h : ascend low high ms) {m : Mapping}
    (hm : m ∈ ms) {code : ℕ} (hfirst : m.first ≤ code) (hlast : code ≤ m.last) :
    ms.find? (fun m => code ≤ m.last) = some m := by
  induction ms generalizing low with
  | nil => cases hm
  | cons m' ms ih =>
    obtain ⟨-, -, -, h⟩ := ascend_cons.1 h
    obtain rfl | hm := List.mem_cons.1 hm
    · exact List.find?_cons_of_pos (decide_eq_true hlast)
    · have hbefore := (bounds_of_ascend h hm).1
      rw [List.find?_cons_of_neg (by simp only [decide_eq_true_eq]; omega)]
      exact ih h hm

/-- Blocks ascend if the rows of the first one end at its last code point. -/
theorem blocksAscend_cons {low : ℕ} {b : ℕ × List Mapping} {bs : List (ℕ × List Mapping)} :
    blocksAscend low (b :: bs) ↔ low ≤ b.1 ∧ ascend low b.1 b.2 ∧ blocksAscend (b.1 + 1) bs := by
  simp only [blocksAscend, Bool.and_eq_true, Nat.ble_eq]

/-- Each row of blocks that ascend begins before it ends. -/
theorem bounds_of_blocksAscend {low : ℕ} {bs : List (ℕ × List Mapping)} (h : blocksAscend low bs)
    {b : ℕ × List Mapping} (hb : b ∈ bs) {m : Mapping} (hm : m ∈ b.2) :
    low ≤ m.first ∧ m.first ≤ m.last := by
  induction bs generalizing low with
  | nil => cases hb
  | cons b' bs ih =>
    obtain ⟨hlow, hrows, h⟩ := blocksAscend_cons.1 h
    obtain rfl | hb := List.mem_cons.1 hb
    · obtain ⟨hlow, hle, -⟩ := bounds_of_ascend hrows hm
      exact ⟨hlow, hle⟩
    · obtain ⟨hlow', hle⟩ := ih h hb
      exact ⟨by omega, hle⟩

/-- Of blocks that ascend, that of a code point is the first that does not end before it. -/
theorem find?_of_blocksAscend {low : ℕ} {bs : List (ℕ × List Mapping)} (h : blocksAscend low bs)
    {b : ℕ × List Mapping} (hb : b ∈ bs) {m : Mapping} (hm : m ∈ b.2) {code : ℕ}
    (hfirst : m.first ≤ code) (hlast : code ≤ m.last) :
    bs.find? (fun b => code ≤ b.1) = some b ∧ b.2.find? (fun m => code ≤ m.last) = some m := by
  induction bs generalizing low with
  | nil => cases hb
  | cons b' bs ih =>
    obtain ⟨-, hrows, h⟩ := blocksAscend_cons.1 h
    obtain rfl | hb := List.mem_cons.1 hb
    · have hend := (bounds_of_ascend hrows hm).2.2
      exact ⟨List.find?_cons_of_pos (decide_eq_true (hlast.trans hend)),
        find?_of_ascend hrows hm hfirst hlast⟩
    · have hbefore := (bounds_of_blocksAscend h hb hm).1
      rw [List.find?_cons_of_neg (by simp only [decide_eq_true_eq]; omega)]
      exact ih h hb

/-- A row takes its first code point to its target. -/
theorem apply_first (m : Mapping) : m.apply m.first = m.target := by
  rw [apply, Nat.sub_self]
  cases h : m.target.getLast? with
  | none => rw [List.getLast?_eq_none_iff.1 h]; rfl
  | some t =>
    obtain ⟨ts, h⟩ := List.getLast?_eq_some_iff.1 h
    simp [h]

end Mapping

/-- The rows of the table ascend, which is computed. -/
theorem decompositionBlocks_ascend : Mapping.blocksAscend 0 decompositionBlocks := by
  decide +kernel

/-- Look-up finds the row of a code point. -/
theorem mappingOf?_of_mem {b : ℕ × List Mapping} (hb : b ∈ decompositionBlocks) {m : Mapping}
    (hm : m ∈ b.2) {code : ℕ} (hfirst : m.first ≤ code) (hlast : code ≤ m.last) :
    mappingOf? code = some (m.apply code) := by
  obtain ⟨hblock, hrow⟩ :=
    Mapping.find?_of_blocksAscend decompositionBlocks_ascend hb hm hfirst hlast
  simp only [mappingOf?, hblock, Option.bind_eq_bind, Option.bind_some, hrow, if_pos hfirst]

/-- What is found in the table is in one of its rows. -/
theorem exists_row {code : ℕ} {target : List ℕ} (h : mappingOf? code = some target) :
    ∃ b ∈ decompositionBlocks, ∃ m ∈ b.2, m.first ≤ code ∧ code ≤ m.last ∧
      target = m.apply code := by
  rw [mappingOf?, Option.bind_eq_bind, Option.bind_eq_some_iff] at h
  obtain ⟨b, hblock, h⟩ := h
  rw [Option.bind_eq_bind, Option.bind_eq_some_iff] at h
  obtain ⟨m, hrow, h⟩ := h
  split_ifs at h with hfirst
  cases h
  exact ⟨b, List.mem_of_find?_eq_some hblock, m, List.mem_of_find?_eq_some hrow, hfirst,
    by simpa using List.find?_some hrow, rfl⟩

/-! ### Characters that decompose no further -/

/-- What a set holds for each row of the table. -/
def Codes.ofRows (f : Mapping → ℕ) : ℕ := union (fun b => union f b.2) decompositionBlocks

/-- The code points of syllables of Hangul. -/
def syllableCodes : ℕ := Codes.range 0xAC00 0xD7A3

/-- The code points that have a row. -/
def rowCodes : ℕ := Codes.ofRows fun m => Codes.range m.first m.last

/-- The code points of characters that are decomposed. -/
def decomposable : ℕ := syllableCodes ||| rowCodes

/-- The code points in the decompositions by a row, if the last one counts on by `width`. -/
def Codes.ofTarget (width : ℕ) : List ℕ → ℕ
  | [] => 0
  | [t] => range t (t + width)
  | t :: ts => 1 <<< t ||| ofTarget width ts

/-- The code points in decompositions, by a row or of a syllable. -/
def decomposed : ℕ :=
  Codes.range 0x1100 0x11C2 ||| Codes.ofRows fun m => Codes.ofTarget (m.last - m.first) m.target

/-- What a row has is in the set that is made of all rows. -/
theorem Codes.testBit_ofRows {f : Mapping → ℕ} {b : ℕ × List Mapping}
    (hb : b ∈ decompositionBlocks) {m : Mapping} (hm : m ∈ b.2) {n : ℕ} (h : (f m).testBit n) :
    (ofRows f).testBit n :=
  testBit_union_of_mem hb (testBit_union_of_mem hm h)

/-- What a row decomposes a code point into is in the set of its target. -/
theorem Codes.testBit_ofTarget {width k : ℕ} (hk : k ≤ width) {target : List ℕ} {t : ℕ}
    (ht : t ∈ target.dropLast ++ (target.getLast?.map (· + k)).toList) :
    (ofTarget width target).testBit t := by
  induction target with
  | nil => cases ht
  | cons u us ih =>
    cases us with
    | nil =>
      obtain rfl : t = u + k := by simpa using ht
      exact testBit_range_of_le (Nat.le_add_right _ _) (Nat.add_le_add_left hk _)
    | cons v vs =>
      rw [ofTarget, Nat.testBit_or, Bool.or_eq_true]
      · rw [List.dropLast_cons_cons, List.getLast?_cons_cons, List.cons_append, List.mem_cons] at ht
        obtain rfl | ht := ht
        · exact .inl (by simp [Nat.testBit_shiftLeft])
        · exact .inr (ih ht)
      · simp

/-- What is in a decomposition is not decomposed, and no syllable has a row. -/
theorem disjoint_codes : decomposable &&& decomposed = 0 ∧ syllableCodes &&& rowCodes = 0 := by
  decide +kernel

/-- A code point of a row is in the set of those that have rows. -/
theorem testBit_rowCodes {m : Mapping} {b : ℕ × List Mapping} (hb : b ∈ decompositionBlocks)
    (hm : m ∈ b.2) {code : ℕ} (hfirst : m.first ≤ code) (hlast : code ≤ m.last) :
    rowCodes.testBit code :=
  Codes.testBit_ofRows hb hm (Codes.testBit_range_of_le hfirst hlast)

/-- The set of the syllables. -/
theorem testBit_syllableCodes {c : Char} : syllableCodes.testBit c.toNat ↔ Hangul.isSyllable c := by
  rw [syllableCodes, Codes.testBit_range, Bool.and_eq_true, decide_eq_true_eq, decide_eq_true_eq,
    Hangul.isSyllable_iff]

/-- **A character outside of the table** decomposes into itself. -/
theorem decomposition_eq_self {c : Char} (h : decomposable.testBit c.toNat = false) :
    decomposition c = [c] := by
  rw [decomposable, Nat.testBit_or, Bool.or_eq_false_iff] at h
  obtain ⟨hsyllable, hrow⟩ := h
  have hnot : ¬Hangul.isSyllable c := by rw [← testBit_syllableCodes, hsyllable]; nofun
  rw [decomposition, if_neg hnot]
  cases hmapping : mappingOf? c.toNat with
  | none => rfl
  | some target =>
    obtain ⟨b, hb, m, hm, hfirst, hlast, -⟩ := exists_row hmapping
    cases hrow.symm.trans (testBit_rowCodes hb hm hfirst hlast)

/-- What characters decompose into is not decomposed again. -/
theorem decomposition_ofNat {n : ℕ} (h : decomposed.testBit n) :
    decomposition (Char.ofNat n) = [Char.ofNat n] := by
  refine decomposition_eq_self ?_
  by_cases hn : n.isValidChar
  · rw [toNat_ofNat hn]
    exact Codes.not_testBit_of_and_eq_zero disjoint_codes.1 h
  · rw [Char.ofNat, dif_neg hn]
    decide +kernel

/-- The parts of a syllable are in the range of the letters of Hangul. -/
theorem Hangul.exists_of_mem_parts {c d : Char} (hc : isSyllable c) (hd : d ∈ parts c) :
    ∃ n, 0x1100 ≤ n ∧ n ≤ 0x11C2 ∧ d = Char.ofNat n := by
  rw [isSyllable_iff] at hc
  have hindex : c.toNat - syllableBase < 11172 := by
    rw [syllableBase]
    omega
  rw [parts] at hd
  generalize c.toNat - syllableBase = index at hd hindex
  rw [leadBase, vowelBase, trailBase] at hd
  split_ifs at hd
  · simp only [List.mem_cons, List.not_mem_nil, or_false] at hd
    obtain rfl | rfl := hd <;> exact ⟨_, by omega, by omega, rfl⟩
  · simp only [List.mem_cons, List.not_mem_nil, or_false] at hd
    obtain rfl | rfl | rfl := hd <;> exact ⟨_, by omega, by omega, rfl⟩

/-- **Decompositions are full.** What a character decomposes into decomposes no further. -/
theorem decomposition_of_mem_decomposition {c d : Char} (h : d ∈ decomposition c) :
    decomposition d = [d] := by
  by_cases hsyllable : Hangul.isSyllable c
  · rw [decomposition, if_pos hsyllable] at h
    obtain ⟨n, hlow, hhigh, rfl⟩ := Hangul.exists_of_mem_parts hsyllable h
    refine decomposition_ofNat ?_
    rw [decomposed, Nat.testBit_or, Codes.testBit_range_of_le hlow hhigh, Bool.true_or]
  cases hmapping : mappingOf? c.toNat with
  | none =>
    have hself : decomposition c = [c] := by rw [decomposition, if_neg hsyllable, hmapping]; rfl
    rw [hself, List.mem_singleton] at h
    rw [h, hself]
  | some target =>
    rw [decomposition, if_neg hsyllable, hmapping] at h
    obtain ⟨n, hn, rfl⟩ := List.mem_map.1 h
    obtain ⟨b, hb, m, hm, hfirst, hlast, rfl⟩ := exists_row hmapping
    refine decomposition_ofNat ?_
    have hmem := Codes.testBit_ofRows
      (f := fun m => Codes.ofTarget (m.last - m.first) m.target) hb hm
      (Codes.testBit_ofTarget (by omega) hn)
    rw [decomposed, Nat.testBit_or, hmem, Bool.or_true]

/-! ### Composites -/

/-- Rows in the order of their first code points, each with its target. -/
inductive Index where
  | nothing
  | node (low : Index) (first : ℕ) (target : List ℕ) (high : Index)

namespace Index

/-- An index of at most `depth` levels, and the rows that it does not hold. -/
def ofRows : ℕ → List Mapping → Index × List Mapping
  | 0, rows => (nothing, rows)
  | depth + 1, rows =>
    match ofRows depth rows with
    | (low, []) => (low, [])
    | (low, row :: rest) =>
      let high := ofRows depth rest
      (node low row.first row.target high.1, high.2)

/-- The target of a row that starts with a code point. -/
def find? (code : ℕ) : Index → Option (List ℕ)
  | nothing => none
  | node low first target high =>
    bif Nat.blt code first then low.find? code
    else bif Nat.blt first code then high.find? code
    else some target

/-- That an index holds only some rows. -/
def Within (rows : List Mapping) : Index → Prop
  | nothing => True
  | node low first target high =>
    low.Within rows ∧ (∃ m ∈ rows, m.first = first ∧ m.target = target) ∧ high.Within rows

/-- An index that is made of rows holds only these. -/
theorem within_ofRows (all : List Mapping) (depth : ℕ) (rows : List Mapping)
    (h : ∀ m ∈ rows, m ∈ all) :
    (ofRows depth rows).1.Within all ∧ ∀ m ∈ (ofRows depth rows).2, m ∈ all := by
  induction depth generalizing rows with
  | zero => exact ⟨trivial, h⟩
  | succ depth ih =>
    obtain ⟨hlow, hrest⟩ := ih rows h
    rw [ofRows]
    split
    · rename_i low heq
      rw [heq] at hlow
      exact ⟨hlow, nofun⟩
    · rename_i low row rest heq
      rw [heq] at hlow hrest
      obtain ⟨hrow, hrest⟩ := List.forall_mem_cons.1 hrest
      obtain ⟨hhigh, hrest⟩ := ih rest hrest
      exact ⟨⟨hlow, ⟨row, hrow, rfl, rfl⟩, hhigh⟩, hrest⟩

/-- What is found in an index is the target of a row. -/
theorem exists_of_find? {rows : List Mapping} {index : Index} (hindex : index.Within rows)
    {code : ℕ} {target : List ℕ} (h : index.find? code = some target) :
    ∃ m ∈ rows, m.first = code ∧ m.target = target := by
  induction index with
  | nothing => cases h
  | node low first target high ihlow ihhigh =>
    obtain ⟨hlow, hrow, hhigh⟩ := hindex
    rw [find?, Bool.cond_eq_ite, Bool.cond_eq_ite] at h
    split_ifs at h with hbefore hbehind
    · exact ihlow hlow h
    · exact ihhigh hhigh h
    · rw [Nat.blt_eq] at hbefore hbehind
      obtain rfl : first = code := by omega
      exact Option.some.inj h ▸ hrow

end Index

/-- The rows of the table. -/
def decompositionRows : List Mapping := decompositionBlocks.flatMap fun b => b.2

/-- The rows in an index. -/
def decompositionIndex : Index := (Index.ofRows 13 decompositionRows).1

/-- Whether `target` is what `first` decomposes into, and `second`. -/
def isSpelled (second : ℕ) : List ℕ → List ℕ → Bool
  | [], [t] => Nat.beq t second
  | s :: ss, t :: ts => Nat.beq t s && isSpelled second ss ts
  | _, _ => false

/-- Whether a row spells a composite by what its first character decomposes into, and its second. -/
def isSpelledIn (index : Index) (second : ℕ) (p : ℕ × ℕ) : Bool :=
  match index.find? p.2 with
  | none => false
  | some target =>
    bif decomposable.testBit p.1 then
      match index.find? p.1 with
      | none => false
      | some start => isSpelled second start target
    else isSpelled second [p.1] target

/-- Each composite of the table decomposes as its two characters do, which is computed. -/
theorem composites_spelled :
    composites.all fun e => e.2.all fun p => isSpelledIn decompositionIndex e.1 p := by
  decide +kernel

/-- A target is spelled by a start and one more code point. -/
theorem isSpelled_iff {second : ℕ} {start target : List ℕ} :
    isSpelled second start target ↔ target = start ++ [second] := by
  induction start generalizing target with
  | nil =>
    match target with
    | [] => simp [isSpelled]
    | [t] => simp [isSpelled]
    | _ :: _ :: _ => simp [isSpelled]
  | cons s ss ih =>
    match target with
    | [] => simp [isSpelled]
    | t :: ts => simp [isSpelled, ih]

/-- A row decomposes its first character into its target. -/
theorem decomposition_of_row {m : Mapping} (hm : m ∈ decompositionRows) {c : Char}
    (h : c.toNat = m.first) : decomposition c = m.target.map Char.ofNat := by
  obtain ⟨b, hb, hm⟩ := List.mem_flatMap.1 hm
  have hlast := (Mapping.bounds_of_blocksAscend decompositionBlocks_ascend hb hm).2
  have hrow := testBit_rowCodes hb hm le_rfl hlast
  have hnot : ¬Hangul.isSyllable c := by
    rw [← testBit_syllableCodes, h, Codes.not_testBit_of_and_eq_zero disjoint_codes.2 hrow]
    nofun
  rw [decomposition, if_neg hnot, h, mappingOf?_of_mem hb hm le_rfl hlast, Mapping.apply_first]
  rfl

/-- What the index finds for a character is its decomposition. -/
theorem decomposition_of_find? {c : Char} {target : List ℕ}
    (h : decompositionIndex.find? c.toNat = some target) :
    decomposition c = target.map Char.ofNat := by
  obtain ⟨m, hm, hfirst, rfl⟩ := Index.exists_of_find?
    (Index.within_ofRows decompositionRows 13 decompositionRows fun _ => id).1 h
  exact decomposition_of_row hm hfirst.symm

/-- A composite that is spelled in the index decomposes as its two characters do. -/
theorem decomposition_of_isSpelledIn {a b w : Char}
    (h : isSpelledIn decompositionIndex b.toNat (a.toNat, w.toNat)) :
    decomposition w = decomposition a ++ [b] := by
  have hsnoc {start target : List ℕ} (h : isSpelled b.toNat start target) :
      target.map Char.ofNat = start.map Char.ofNat ++ [b] := by
    rw [isSpelled_iff.1 h, List.map_append, List.map_singleton, Char.ofNat_toNat]
  rw [isSpelledIn] at h
  split at h
  · cases h
  rename_i target htarget
  rw [decomposition_of_find? htarget]
  cases hfirst : decomposable.testBit a.toNat with
  | false =>
    simp only [hfirst, cond_false] at h
    rw [hsnoc h, decomposition_eq_self hfirst, List.map_singleton, Char.ofNat_toNat]
  | true =>
    simp only [hfirst, cond_true] at h
    split at h
    · cases h
    rename_i start hstart
    rw [hsnoc h, decomposition_of_find? hstart]

/-- The composites of the table, as code points of characters. -/
theorem composites_isValidChar : composites.all fun e => e.2.all fun p =>
    Nat.blt p.2 0xD800 || Nat.blt 0xDFFF p.2 && Nat.blt p.2 0x110000 := by decide +kernel

/-- A composite that is no syllable is in the table. -/
theorem exists_entry {a b w : Char} (h : composite? a b = some w)
    (hangul : Hangul.join? a b = none) :
    ∃ e ∈ composites, ∃ p ∈ e.2, e.1 = b.toNat ∧ p.1 = a.toNat ∧ p.2 = w.toNat := by
  rw [composite?, hangul] at h
  change (composites.lookup b.toNat).bind _ = some w at h
  rw [Option.bind_eq_some_iff] at h
  obtain ⟨firsts, hfirsts, h⟩ := h
  rw [Option.bind_eq_bind, Option.bind_eq_some_iff] at h
  obtain ⟨code, hcode, h⟩ := h
  obtain ⟨_, _, hentries, -⟩ := List.lookup_eq_some_iff.1 hfirsts
  obtain ⟨_, _, hpairs, -⟩ := List.lookup_eq_some_iff.1 hcode
  have he : (b.toNat, firsts) ∈ composites := by simp [hentries]
  have hp : (a.toNat, code) ∈ firsts := by simp [hpairs]
  cases h
  refine ⟨_, he, _, hp, rfl, rfl, (toNat_ofNat ?_).symm⟩
  have hvalid := List.all_eq_true.1 (List.all_eq_true.1 composites_isValidChar _ he) _ hp
  simpa [Nat.isValidChar] using hvalid

/-- The letters of Hangul are not decomposed. -/
theorem decomposition_of_jamo {c : Char} (hlow : 0x1100 ≤ c.toNat) (hhigh : c.toNat ≤ 0x11C2) :
    decomposition c = [c] := by
  have h : decomposed.testBit c.toNat := by
    rw [decomposed, Nat.testBit_or, Codes.testBit_range_of_le hlow hhigh, Bool.true_or]
  simpa only [Char.ofNat_toNat] using decomposition_ofNat h

namespace Hangul

/-- The syllable of the lead `l`, the vowel `v` and the trail `t`, of which 0 is none. -/
theorem parts_of_toNat {w : Char} {l v t : ℕ} (hv : v < 21) (ht : t < 28)
    (h : w.toNat = 0xAC00 + (l * 588 + v * 28 + t)) :
    parts w = Char.ofNat (0x1100 + l) :: Char.ofNat (0x1161 + v) ::
      if t = 0 then [] else [Char.ofNat (0x11A7 + t)] := by
  have hindex : w.toNat - syllableBase = l * 588 + v * 28 + t := by
    rw [h, syllableBase, Nat.add_sub_cancel_left]
  have hlead : (l * 588 + v * 28 + t) / 588 = l := by omega
  have hvowel : (l * 588 + v * 28 + t) % 588 / 28 = v := by omega
  have htrail : (l * 588 + v * 28 + t) % 28 = t := by omega
  rw [parts, hindex, hlead, hvowel, htrail, leadBase, vowelBase, trailBase]
  split <;> rfl

/-- A syllable decomposes into its letters, of which the third one may be missing. -/
theorem decomposition_of_toNat {w : Char} {l v t : ℕ} (hl : l < 19) (hv : v < 21) (ht : t < 28)
    (h : w.toNat = 0xAC00 + (l * 588 + v * 28 + t)) :
    decomposition w = Char.ofNat (0x1100 + l) :: Char.ofNat (0x1161 + v) ::
      if t = 0 then [] else [Char.ofNat (0x11A7 + t)] := by
  rw [decomposition, if_pos (isSyllable_iff.2 (by omega)), parts_of_toNat hv ht h]

/-- A syllable that is joined decomposes into what was joined. -/
theorem decomposition_of_join? {a b w : Char} (h : join? a b = some w) :
    decomposition w = decomposition a ++ [b] := by
  rw [join?, leadBase, vowelBase, trailBase, syllableBase] at h
  split_ifs at h with hletters htrail
  · obtain ⟨l, hl⟩ := Nat.exists_eq_add_of_le hletters.1
    obtain ⟨v, hv⟩ := Nat.exists_eq_add_of_le hletters.2.2.1
    rw [hl, hv, Nat.add_sub_cancel_left, Nat.add_sub_cancel_left] at h
    cases h
    have hw := toNat_ofNat (n := 0xAC00 + l * 588 + v * 28) (.inl (by omega))
    have hspelled := decomposition_of_toNat (l := l) (v := v) (t := 0) (by omega) (by omega)
      (by omega) (hw.trans (by omega))
    rw [hspelled, if_pos rfl, decomposition_of_jamo (by omega) (by omega), ← hl, ← hv,
      Char.ofNat_toNat, Char.ofNat_toNat, List.singleton_append]
  · obtain ⟨hsyllable, hopen, hlow, hhigh⟩ := htrail
    rw [isSyllable_iff] at hsyllable
    obtain ⟨index, ha⟩ := Nat.exists_eq_add_of_le hsyllable.1
    obtain ⟨t, hb⟩ := Nat.exists_eq_add_of_lt hlow
    rw [ha, Nat.add_sub_cancel_left] at hopen
    have hindex : index = index / 588 * 588 + index % 588 / 28 * 28 := by omega
    have hsub : b.toNat - 0x11A7 = t + 1 := by omega
    rw [ha, hsub] at h
    cases h
    have hw := toNat_ofNat (n := 0xAC00 + index + (t + 1)) (.inl (by omega))
    have hspelled (t : ℕ) (ht : t < 28) {c : Char} (hc : c.toNat = 0xAC00 + index + t) :=
      decomposition_of_toNat (w := c) (l := index / 588) (v := index % 588 / 28) (t := t) (by omega)
        (by omega) ht (by omega)
    rw [hspelled (t + 1) (by omega) hw, if_neg t.succ_ne_zero, hspelled 0 (by omega) ha, if_pos rfl,
      ← Nat.add_assoc, ← hb, Char.ofNat_toNat]
    rfl

end Hangul

/-- **A composite decomposes into its parts**: what its first character decomposes into, and its
second character. -/
theorem decomposition_of_composite {a b w : Char} (h : composite? a b = some w) :
    decomposition w = decomposition a ++ [b] := by
  cases hangul : Hangul.join? a b with
  | some c =>
    obtain rfl : c = w := by
      rw [composite?, hangul] at h
      exact Option.some.inj h
    exact Hangul.decomposition_of_join? hangul
  | none =>
    obtain ⟨e, he, p, hp, hb, ha, hw⟩ := exists_entry h hangul
    have hspelled := List.all_eq_true.1 (List.all_eq_true.1 composites_spelled _ he) _ hp
    have hpair : p = (a.toNat, w.toNat) := Prod.ext ha hw
    exact decomposition_of_isSpelledIn (hb ▸ hpair ▸ hspelled)

/-! ### Characters that take no part -/

/-- The code points of characters of a class above zero. -/
def markCodes : ℕ := Codes.union (fun row => Codes.range row.1 row.2.1) classRows

/-- The code points of first characters of composites. -/
def firstCodes : ℕ :=
  Codes.range 0x1100 0x1112 ||| syllableCodes |||
    Codes.union (fun e => Codes.union (fun p => Codes.range p.1 p.1) e.2) composites

/-- The code points of second characters of composites. -/
def secondCodes : ℕ :=
  Codes.range 0x1161 0x11C2 ||| Codes.union (fun e => Codes.range e.1 e.1) composites

/-- The code points of composites. -/
def wholeCodes : ℕ :=
  syllableCodes ||| Codes.union (fun e => Codes.union (fun p => Codes.range p.2 p.2) e.2) composites

/-- A character with a class is in the set of the marks. -/
theorem testBit_markCodes {c : Char} (h : combiningClass c ≠ 0) : markCodes.testBit c.toNat := by
  rw [combiningClass] at h
  split at h
  · rename_i first last k hrow
    split_ifs at h with hfirst
    · have hlast : c.toNat ≤ last := by simpa using List.find?_some hrow
      exact Codes.testBit_union_of_mem (List.mem_of_find?_eq_some hrow)
        (Codes.testBit_range_of_le hfirst hlast)
    · exact absurd rfl h
  · exact absurd rfl h

/-- The characters that join to a syllable are in the ranges for them. -/
theorem Hangul.testBit_of_join? {a b w : Char} (h : join? a b = some w) :
    (Codes.range 0x1100 0x1112 ||| syllableCodes).testBit a.toNat ∧
      (Codes.range 0x1161 0x11C2).testBit b.toNat ∧ syllableCodes.testBit w.toNat := by
  rw [join?, leadBase, vowelBase, trailBase, syllableBase] at h
  rw [Nat.testBit_or, Bool.or_eq_true, Codes.testBit_range, testBit_syllableCodes,
    Codes.testBit_range, testBit_syllableCodes]
  simp only [Bool.and_eq_true, decide_eq_true_eq]
  split_ifs at h with hletters htrail
  · obtain rfl := Option.some.inj h
    have hw := toNat_ofNat
      (n := 0xAC00 + (a.toNat - 0x1100) * 588 + (b.toNat - 0x1161) * 28) (.inl (by omega))
    exact ⟨.inl (by omega), by omega, isSyllable_iff.2 (by omega)⟩
  · obtain rfl := Option.some.inj h
    obtain ⟨hsyllable, hopen, hlow, hhigh⟩ := htrail
    have ha := isSyllable_iff.1 hsyllable
    have hw := toNat_ofNat (n := a.toNat + (b.toNat - 0x11A7)) (.inl (by omega))
    exact ⟨.inr hsyllable, by omega, isSyllable_iff.2 (by omega)⟩

/-- Where the characters of a composite are looked up. -/
theorem testBit_of_composite {a b w : Char} (h : composite? a b = some w) :
    firstCodes.testBit a.toNat ∧ secondCodes.testBit b.toNat ∧ wholeCodes.testBit w.toNat := by
  rw [firstCodes, secondCodes, wholeCodes, Nat.testBit_or, Nat.testBit_or _ _ b.toNat,
    Nat.testBit_or _ _ w.toNat]
  cases hangul : Hangul.join? a b with
  | some c =>
    obtain rfl : c = w := by
      rw [composite?, hangul] at h
      exact Option.some.inj h
    obtain ⟨ha, hb, hw⟩ := Hangul.testBit_of_join? hangul
    rw [ha, hb, hw]
    exact ⟨rfl, rfl, rfl⟩
  | none =>
    obtain ⟨e, he, p, hp, hb, ha, hw⟩ := exists_entry h hangul
    rw [← ha, ← hb, ← hw]
    simp only [Bool.or_eq_true]
    have hsame (n : ℕ) : (Codes.range n n).testBit n := Codes.testBit_range_of_le le_rfl le_rfl
    exact ⟨.inr (Codes.testBit_union_of_mem he (Codes.testBit_union_of_mem hp (hsame p.1))),
      .inr (Codes.testBit_union_of_mem he (hsame e.1)),
      .inr (Codes.testBit_union_of_mem he (Codes.testBit_union_of_mem hp (hsame p.2)))⟩

/-- A character outside of the set of first ones begins no composite. -/
theorem composite?_eq_none {a : Char} (h : firstCodes.testBit a.toNat = false) (b : Char) :
    composite? a b = none := by
  by_contra hsome
  obtain ⟨w, hw⟩ := Option.ne_none_iff_exists'.1 hsome
  cases h.symm.trans (testBit_of_composite hw).1

/-- A character that stays where it is and joins no letter, and that no two characters make. -/
structure Settled (c : Char) : Prop where
  combiningClass : combiningClass c = 0
  composite? (a : Char) : composite? a c = none
  ne_composite (a b : Char) : Text.composite? a b ≠ some c

/-- A settled character that nothing joins. -/
structure Inert (c : Char) : Prop extends Settled c where
  joins (b : Char) : Text.composite? c b = none

/-- The code points of characters that are not settled. -/
def unsettled : ℕ := markCodes ||| secondCodes ||| wholeCodes

/-- A character outside of the set of unsettled ones is settled. -/
theorem settled_of_testBit {c : Char} (h : unsettled.testBit c.toNat = false) : Settled c := by
  rw [unsettled, Nat.testBit_or, Nat.testBit_or, Bool.or_eq_false_iff, Bool.or_eq_false_iff] at h
  obtain ⟨⟨hmark, hsecond⟩, hwhole⟩ := h
  refine ⟨?_, fun a => ?_, fun a b hw => ?_⟩
  · by_contra hclass
    cases hmark.symm.trans (testBit_markCodes hclass)
  · by_contra hsome
    obtain ⟨w, hw⟩ := Option.ne_none_iff_exists'.1 hsome
    cases hsecond.symm.trans (testBit_of_composite hw).2.1
  · cases hwhole.symm.trans (testBit_of_composite hw).2.2

/-- Sets of inert characters. -/
theorem inert_of_testBit {codes : ℕ} (h : (unsettled ||| firstCodes) &&& codes = 0) {c : Char}
    (hc : codes.testBit c.toNat) : Inert c := by
  have hnot := Codes.not_testBit_of_and_eq_zero h hc
  rw [Nat.testBit_or, Bool.or_eq_false_iff] at hnot
  exact ⟨settled_of_testBit hnot.1, composite?_eq_none hnot.2⟩

/-- Blanks take no part in the normal form. -/
theorem inert_of_isBlank {c : Char} (h : isBlank c) : Inert c := by
  obtain ⟨r, hr, hc⟩ := List.any_eq_true.1 h
  rw [Bool.and_eq_true, decide_eq_true_eq, decide_eq_true_eq] at hc
  have hdisjoint : (unsettled ||| firstCodes) &&&
      Codes.union (fun r => Codes.range r.1 r.2) blankRanges = 0 := by decide +kernel
  exact inert_of_testBit hdisjoint
    (Codes.testBit_union_of_mem hr (Codes.testBit_range_of_le hc.1 hc.2))

/-- The characters of ASCII take no part in the normal form, but marks may join some of them. -/
theorem of_ascii {c : Char} (h : c.toNat ≤ 0x7F) : decomposition c = [c] ∧ Settled c := by
  have hascii : (decomposable ||| unsettled) &&& Codes.range 0 0x7F = 0 := by decide +kernel
  have hnot := Codes.not_testBit_of_and_eq_zero hascii
    (Codes.testBit_range_of_le (Nat.zero_le _) h)
  rw [Nat.testBit_or, Bool.or_eq_false_iff] at hnot
  exact ⟨decomposition_eq_self hnot.1, settled_of_testBit hnot.2⟩

end Text
end Reckoner
