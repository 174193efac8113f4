/-
# Definitions of variables

A text defines a variable in each of its lines that is not blank. The lines may end in any way, and
blanks may stand around a name and a value (`Template.Definition`). Definitions that are written so
are read as what was written: each name has the value of its last definition, and the names are in
the order of their first ones. If a line is no definition, the first such line is reported
(`definitions_written`).

A carriage return that ends a line makes one break with a line feed that ends the next, empty line.
Then one blank line less is read, which defines nothing (`Text.breakLines_terminated`).
-/

import Mathlib.Data.List.Induction
import Reckoner.Proofs.Placeholders

namespace Reckoner

namespace Bindings

/-- The names of bindings, first one first. -/
theorem names_cons (p : String × String) (rest : Bindings) :
    names (p :: rest) = p.1 :: names rest := rfl

/-- Binding a name adds it at the end, unless it is there. -/
theorem names_set (bindings : Bindings) (name value : String) :
    (bindings.set name value).names =
      if name ∈ bindings.names then bindings.names else bindings.names ++ [name] := by
  induction bindings with
  | nil => rfl
  | cons p rest ih =>
    obtain ⟨n, v⟩ := p
    by_cases hname : n = name
    · simp [set, hname, names_cons]
    · simp only [set, if_neg hname, names_cons, ih, List.mem_cons, or_iff_right (Ne.symm hname)]
      split_ifs <;> rfl

/-- Merging pairs one list after the other. -/
theorem merge_append (bindings : Bindings) (pairs pairs' : List (String × String)) :
    bindings.merge (pairs ++ pairs') = (bindings.merge pairs).merge pairs' :=
  List.foldl_append

/-- The last pair is bound last. -/
theorem merge_concat (bindings : Bindings) (pairs : List (String × String)) (p : String × String) :
    bindings.merge (pairs ++ [p]) = (bindings.merge pairs).set p.1 p.2 :=
  merge_append bindings pairs [p]

/-- Names that are bound in turn are in the order of their first bindings. -/
theorem names_merge (pairs : List (String × String)) :
    (merge [] pairs).names = (pairs.map Prod.fst).eraseDups := by
  induction pairs using List.reverseRecOn with
  | nil => rfl
  | append_singleton pairs p ih =>
    rw [merge_concat, names_set, ih, List.map_append, List.eraseDups_append]
    by_cases h : p.1 ∈ pairs.map Prod.fst
    · simp [List.removeAll, h]
    · simp [List.removeAll, h, List.eraseDups_cons]

/-- A name has the value of its last binding in turn, and without one the value that it had. -/
theorem find?_merge_onto (bindings : Bindings) (pairs : List (String × String)) (name : String) :
    (bindings.merge pairs).find? name = (pairs.reverse.lookup name).or (bindings.find? name) := by
  induction pairs using List.reverseRecOn with
  | nil => rfl
  | append_singleton pairs p ih =>
    rw [merge_concat, List.reverse_append, List.reverse_singleton, List.singleton_append,
      List.lookup_cons]
    by_cases h : name = p.1
    · rw [h, find?_set_self, beq_self_eq_true]
      rfl
    · rw [find?_set_of_ne _ _ h, ih, beq_false_of_ne h]

/-- A name that is merged has the text of its last pair. -/
theorem find?_merge (pairs : List (String × String)) (name : String) :
    (merge [] pairs).find? name = pairs.reverse.lookup name := by
  rw [find?_merge_onto, find?, List.lookup_nil, Option.or_none]

/-- Where each name is bound once, the last binding of a name is the first one. -/
theorem lookup_reverse {bindings : Bindings} (h : bindings.names.Nodup) (name : String) :
    bindings.reverse.lookup name = bindings.find? name := by
  induction bindings with
  | nil => rfl
  | cons p rest ih =>
    obtain ⟨hp, hrest⟩ := List.nodup_cons.1 h
    rw [List.reverse_cons, List.lookup_append, ih hrest, find?, find?, List.lookup_cons,
      List.lookup_cons]
    by_cases hname : name = p.1
    · have hnone : rest.lookup name = none := List.lookup_eq_none_iff.2 fun q hq =>
        bne_iff_ne.2 fun heq => hp (hname ▸ heq ▸ List.mem_map_of_mem hq)
      rw [hnone]
      simp [hname]
    · simp [beq_false_of_ne hname]

/-- No name is bound twice. -/
theorem nodup_merge (pairs : List (String × String)) : (merge [] pairs).names.Nodup := by
  induction pairs using List.reverseRecOn with
  | nil => exact List.nodup_nil
  | append_singleton pairs p ih =>
    rw [merge_concat, names_set]
    split_ifs with h
    · exact ih
    · exact (List.perm_append_singleton _ _).nodup_iff.2 (List.nodup_cons.2 ⟨h, ih⟩)

/-- Bindings that were made in turn can be made onto others at once. -/
theorem find?_merge_merge (bindings : Bindings) (pairs : List (String × String)) (name : String) :
    (bindings.merge (merge [] pairs)).find? name =
      (pairs.reverse.lookup name).or (bindings.find? name) := by
  rw [find?_merge_onto, lookup_reverse (nodup_merge pairs), find?_merge]

end Bindings

namespace Template

/-! ### Lines that define a variable -/

/-- A name and a value, as they are written in a line. -/
structure Definition where
  indent : List Char
  name : List Char
  before : List Char
  after : List Char
  value : List Char
  behind : List Char
  isGap_indent : Text.IsGap indent
  isName : IsName name
  isGap_before : Text.IsGap before
  isGap_after : Text.IsGap after
  ne_nil : value ≠ []
  trim_value : Text.trim value = value
  unbroken : Text.Unbroken value
  isGap_behind : Text.IsGap behind

namespace Definition

/-- A definition from its name to its value. -/
def core (d : Definition) : List Char := d.name ++ (d.before ++ '=' :: (d.after ++ d.value))

/-- A definition as it is written. -/
def text (d : Definition) : List Char := d.indent ++ (d.core ++ d.behind)

/-- The name and the value. -/
def pair (d : Definition) : String × String := (String.ofList d.name, String.ofList d.value)

end Definition

/-- What a line defines. -/
inductive Defines : List Char → List (String × String) → Prop
  | blank {line : List Char} : Text.IsGap line → Defines line []
  | definition (d : Definition) : Defines d.text [d.pair]

/-- A definition is a name, blanks, an equals sign and a text that is not empty. -/
theorem readDefinition?_eq_some_iff {line : List Char} {pair : String × String} :
    readDefinition? line = some pair ↔ ∃ name gap value, line = name ++ (gap ++ '=' :: value) ∧
      IsName name ∧ (∀ c ∈ gap, Text.isBlank c) ∧ value ≠ [] ∧
        pair = (String.ofList name, String.ofList (Text.trim value)) := by
  constructor
  · intro h
    rw [readDefinition?, Option.bind_eq_bind, Option.bind_eq_some_iff] at h
    obtain ⟨⟨name, rest⟩, hname, h⟩ := h
    simp only at h
    split at h
    · rename_i value hvalue
      split_ifs at h with hempty
      obtain ⟨hline, hisName, -⟩ := readName?_eq_some_iff.1 hname
      cases h
      refine ⟨name, rest.takeWhile Text.isBlank, value, ?_, hisName,
        fun _ => List.mem_takeWhile_imp, by simpa using hempty, rfl⟩
      rw [← hvalue, List.takeWhile_append_dropWhile, hline]
    · cases h
  · rintro ⟨name, gap, value, rfl, hname, hgap, hvalue, rfl⟩
    have hequals : Text.isBlank '=' = false ∧ Text.isWord '=' = false := by decide +kernel
    have hdrop : (gap ++ '=' :: value).dropWhile Text.isBlank = '=' :: value :=
      (Text.run_append hgap (by rintro _ ⟨⟩; exact hequals.1)).2
    rw [readDefinition?, Option.bind_eq_bind, readName?_eq_some_iff.2
      ⟨rfl, hname, Text.isWord_head_gap hgap hequals.2 value⟩, Option.bind_some]
    simp only [hdrop, List.isEmpty_iff, if_neg hvalue]

namespace Definition

variable (d : Definition)

/-- A definition is written in one line. -/
theorem unbroken_text : Text.Unbroken d.text := by
  have hname : Text.Unbroken d.name := fun c hc =>
    Text.not_isBreak_of_isWord (d.isName.isWord c hc)
  simp only [text, core, Text.unbroken_append, Text.unbroken_cons]
  exact ⟨d.isGap_indent.2, ⟨hname, d.isGap_before.2, by decide, d.isGap_after.2, d.unbroken⟩,
    d.isGap_behind.2⟩

/-- The core of a definition has no blanks around it. -/
theorem trimmed_core : Text.Trimmed d.core := by
  obtain ⟨-, hlast⟩ := Text.trim_eq_self_iff.1 d.trim_value
  have hcore : d.core = (d.name ++ (d.before ++ '=' :: d.after)) ++ d.value := by simp [core]
  refine ⟨d.isName.isBlank_head _, ?_⟩
  rwa [hcore, List.getLast?_append_of_ne_nil _ d.ne_nil]

/-- Trimming a definition leaves its core. -/
theorem trim_text : Text.trim d.text = d.core :=
  Text.trim_append d.isGap_indent.1 d.isGap_behind.1 d.trimmed_core

/-- The core of a definition is read as its pair. -/
theorem readDefinition?_core : readDefinition? d.core = some d.pair := by
  have hvalue : Text.trim (d.after ++ d.value) = d.value := by
    have htrim := @Text.trim_append d.after d.value [] d.isGap_after.1 nofun
      (Text.trim_eq_self_iff.1 d.trim_value)
    rwa [List.append_nil] at htrim
  exact readDefinition?_eq_some_iff.2 ⟨d.name, d.before, d.after ++ d.value, rfl, d.isName,
    d.isGap_before.1, by simp [d.ne_nil], by rw [hvalue]; rfl⟩

end Definition

/-- What defines pairs is one line. -/
theorem Defines.unbroken {line : List Char} {pairs : List (String × String)}
    (h : Defines line pairs) : Text.Unbroken line := by
  cases h with
  | blank h => exact h.2
  | definition d => exact d.unbroken_text

/-- What is read as a definition is one. -/
theorem exists_definition {line : List Char} (hline : Text.Unbroken line) {pair : String × String}
    (h : readDefinition? (Text.trim line) = some pair) :
    ∃ d : Definition, d.text = line ∧ d.pair = pair := by
  obtain ⟨name, before, rest, hcore, hname, hbefore, hrest, rfl⟩ := readDefinition?_eq_some_iff.1 h
  obtain ⟨indent, behind, hindent, hbehind, hparts, htrimmed⟩ := Text.exists_trim line
  obtain ⟨after, tail, hafter, htail, hvalue, hvalueTrimmed⟩ := Text.exists_trim rest
  have hall : indent ++ ((name ++ (before ++ '=' :: (after ++ Text.trim rest))) ++
      (tail ++ behind)) = line := by
    conv_rhs => rw [hparts, hcore, hvalue]
    simp only [List.append_assoc, List.cons_append]
  -- The value is not all blanks: it ends where the line without its blanks ends.
  have hne : Text.trim rest ≠ [] := by
    intro hnil
    have hlast := htrimmed.2
    rw [hcore, ← List.append_assoc, List.getLast?_append_cons, List.getLast?_cons_of_ne_nil hrest,
      List.getLast?_eq_some_getLast hrest] at hlast
    have hblank := Text.trim_eq_nil_iff.1 hnil _ (List.getLast_mem hrest)
    rw [hlast _ rfl] at hblank
    cases hblank
  rw [← hall] at hline
  simp only [Text.unbroken_append, Text.unbroken_cons] at hline
  obtain ⟨hindent', ⟨-, hbefore', -, hafter', hvalue'⟩, htail', hbehind'⟩ := hline
  exact ⟨⟨indent, name, before, after, Text.trim rest, tail ++ behind, ⟨hindent, hindent'⟩, hname,
    ⟨hbefore, hbefore'⟩, ⟨hafter, hafter'⟩, hne, Text.trim_eq_self_iff.2 hvalueTrimmed, hvalue',
    ⟨List.forall_mem_append.2 ⟨htail, hbehind⟩, Text.unbroken_append.2 ⟨htail', hbehind'⟩⟩⟩,
    hall, rfl⟩

/-! ### Reading definitions -/

/-- What a line defines, if it is blank or a definition. -/
def readLine? (line : List Char) : Option (List (String × String)) :=
  if (Text.trim line).isEmpty then some []
  else (readDefinition? (Text.trim line)).map fun pair => [pair]

/-- **A line is read** as the pairs that it defines, and as no others. -/
theorem readLine?_eq_some_iff {line : List Char} (hline : Text.Unbroken line)
    {pairs : List (String × String)} : readLine? line = some pairs ↔ Defines line pairs := by
  constructor
  · intro h
    rw [readLine?] at h
    split_ifs at h with hempty
    · cases h
      exact .blank ⟨Text.trim_eq_nil_iff.1 (List.isEmpty_iff.1 hempty), hline⟩
    · obtain ⟨pair, hpair, rfl⟩ := Option.map_eq_some_iff.1 h
      obtain ⟨d, rfl, rfl⟩ := exists_definition hline hpair
      exact .definition d
  · intro h
    cases h with
    | blank h => rw [readLine?, Text.trim_eq_nil_iff.2 h.1]; rfl
    | definition d =>
      have hne : ¬d.core.isEmpty := by simp [Definition.core]
      rw [readLine?, d.trim_text, if_neg hne, d.readDefinition?_core]
      rfl

/-- A line defines one list of pairs. -/
theorem Defines.unique {line : List Char} {pairs pairs' : List (String × String)}
    (h : Defines line pairs) (h' : Defines line pairs') : pairs = pairs' := by
  have hread := (readLine?_eq_some_iff h.unbroken).2 h
  exact Option.some.inj (hread.symm.trans ((readLine?_eq_some_iff h'.unbroken).2 h'))

/-- The first line is read first, and ends the reading if it is malformed. -/
theorem defineLines_cons (bindings : Bindings) (number : ℕ) (line : List Char)
    (lines : List (List Char)) :
    defineLines bindings number (line :: lines) =
      match readLine? line with
      | some pairs => defineLines (bindings.merge pairs) (number + 1) lines
      | none => .error (.badDefinition number) := by
  rw [defineLines, readLine?]
  by_cases h : (Text.trim line).isEmpty
  · simp only [if_pos h]
    rfl
  · simp only [if_neg h]
    cases readDefinition? (Text.trim line) <;> rfl

/-- Lines are read one list after the other, with their numbers. -/
theorem defineLines_append (bindings : Bindings) (number : ℕ) (lines lines' : List (List Char)) :
    defineLines bindings number (lines ++ lines') =
      (defineLines bindings number lines).bind fun defined =>
        defineLines defined (number + lines.length) lines' := by
  induction lines generalizing bindings number with
  | nil => rfl
  | cons line lines ih =>
    rw [List.cons_append, defineLines_cons, defineLines_cons]
    cases readLine? line with
    | none => rfl
    | some pairs =>
      simp only
      rw [ih, List.length_cons, Nat.add_assoc, Nat.add_comm 1]

/-- Definitions that are written one in a line, with blank lines between them. -/
inductive Written : List (String × String) → List Char → Prop
  | last {line : List Char} {pairs : List (String × String)} :
      Defines line pairs → Written pairs line
  | line {line ending rest : List Char} {pairs pairs' : List (String × String)} :
    Defines line pairs → Text.Terminator ending → Written pairs' rest →
      Written (pairs ++ pairs') (line ++ (ending ++ rest))

/-- A line that defines pairs merges them, and the next line is read. -/
theorem defineLines_defines {line : List Char} {pairs : List (String × String)}
    (h : Defines line pairs) (bindings : Bindings) (number : ℕ) (lines : List (List Char)) :
    defineLines bindings number (line :: lines) =
      defineLines (bindings.merge pairs) (number + 1) lines := by
  rw [defineLines_cons, (readLine?_eq_some_iff h.unbroken).2 h]

/-- Definitions that are written are read as their pairs. -/
theorem Written.defineLines_eq {cs : List Char} {pairs : List (String × String)}
    (h : Written pairs cs) (bindings : Bindings) (number : ℕ) :
    defineLines bindings number (Text.breakLines cs) = .ok (bindings.merge pairs) := by
  induction h generalizing bindings number with
  | @last line pairs h =>
    rw [Text.breakLines_unbroken h.unbroken]
    split_ifs with hempty
    · rw [List.isEmpty_iff] at hempty
      subst hempty
      rw [h.unique (.blank Text.isGap_nil)]
      rfl
    · rw [defineLines_defines h]
      rfl
  | @line line ending rest pairs pairs' h hending _ ih =>
    rw [Bindings.merge_append]
    obtain hlines | ⟨rest', hrest, hlines⟩ := Text.breakLines_terminated h.unbroken hending rest
    · rw [hlines, defineLines_defines h, ih]
    · have hempty := ih (bindings.merge pairs) number
      rw [hrest, defineLines_defines (.blank Text.isGap_nil)] at hempty
      rw [hlines, defineLines_defines h]
      exact hempty

/-- That a line is neither blank nor a definition. -/
def Malformed (line : List Char) : Prop := ¬Text.isBlankText line ∧ ∀ d : Definition, d.text ≠ line

/-- A line that defines pairs is not malformed. -/
theorem Defines.not_malformed {line : List Char} {pairs : List (String × String)}
    (h : Defines line pairs) : ¬Malformed line := by
  intro hmalformed
  cases h with
  | blank h => exact hmalformed.1 (List.all_eq_true.2 h.1)
  | definition d => exact hmalformed.2 d rfl

/-- **A line is refused** exactly if it is malformed. -/
theorem readLine?_eq_none_iff {line : List Char} (hline : Text.Unbroken line) :
    readLine? line = none ↔ Malformed line := by
  constructor
  · intro h
    refine ⟨fun hblank => ?_, ?_⟩
    · have hgap : Text.IsGap line := ⟨List.all_eq_true.1 hblank, hline⟩
      cases h.symm.trans ((readLine?_eq_some_iff hline).2 (.blank hgap))
    · rintro d rfl
      cases h.symm.trans ((readLine?_eq_some_iff hline).2 (.definition d))
  · rintro ⟨hblank, hdefinition⟩
    cases h : readLine? line with
    | none => rfl
    | some pairs =>
      cases (readLine?_eq_some_iff hline).1 h with
      | blank hgap => exact absurd (List.all_eq_true.2 hgap.1) hblank
      | definition d => exact absurd rfl (hdefinition d)

/-- A line that is not malformed defines pairs. -/
theorem exists_defines {line : List Char} (hline : Text.Unbroken line) (h : ¬Malformed line) :
    ∃ pairs, Defines line pairs := by
  rw [← readLine?_eq_none_iff hline] at h
  obtain ⟨pairs, hpairs⟩ := Option.ne_none_iff_exists'.1 h
  exact ⟨pairs, (readLine?_eq_some_iff hline).1 hpairs⟩

/-- Lines none of which is malformed define pairs. -/
theorem exists_forall₂_defines {lines : List (List Char)}
    (hlines : ∀ line ∈ lines, Text.Unbroken line) (h : ∀ line ∈ lines, ¬Malformed line) :
    ∃ pairs, List.Forall₂ Defines lines pairs := by
  induction lines with
  | nil => exact ⟨[], .nil⟩
  | cons line lines ih =>
    obtain ⟨hline, hlines⟩ := List.forall_mem_cons.1 hlines
    obtain ⟨hformed, h⟩ := List.forall_mem_cons.1 h
    obtain ⟨first, hfirst⟩ := exists_defines hline hformed
    obtain ⟨rest, hrest⟩ := ih hlines h
    exact ⟨first :: rest, .cons hfirst hrest⟩

/-- Lines that define pairs are read as all of them. -/
theorem defineLines_of_forall₂ {lines : List (List Char)} {pairs : List (List (String × String))}
    (h : List.Forall₂ Defines lines pairs) (bindings : Bindings) (number : ℕ) :
    defineLines bindings number lines = .ok (bindings.merge pairs.flatten) := by
  induction h generalizing bindings number with
  | nil => rfl
  | cons hline _ ih =>
    rw [defineLines_defines hline, ih, List.flatten_cons, Bindings.merge_append]

/-- Lines none of which is malformed are read. -/
theorem exists_defineLines {lines : List (List Char)} (hlines : ∀ line ∈ lines, Text.Unbroken line)
    (h : ∀ line ∈ lines, ¬Malformed line) (bindings : Bindings) (number : ℕ) :
    ∃ defined, defineLines bindings number lines = .ok defined := by
  obtain ⟨pairs, hpairs⟩ := exists_forall₂_defines hlines h
  exact ⟨_, defineLines_of_forall₂ hpairs bindings number⟩

/-- **The first malformed line is reported**, with its number. -/
theorem defineLines_eq_error {before behind : List (List Char)} {line : List Char}
    (hlines : ∀ l ∈ before, Text.Unbroken l) (hbefore : ∀ l ∈ before, ¬Malformed l)
    (hline : Text.Unbroken line) (h : Malformed line) (bindings : Bindings) (number : ℕ) :
    defineLines bindings number (before ++ line :: behind) =
      .error (.badDefinition (number + before.length)) := by
  obtain ⟨defined, hdefined⟩ := exists_defineLines hlines hbefore bindings number
  rw [defineLines_append, hdefined]
  change defineLines defined (number + before.length) (line :: behind) = _
  rw [defineLines_cons, (readLine?_eq_none_iff hline).2 h]

/-- If lines are malformed, one of them is the first. -/
theorem exists_firstMalformed {lines : List (List Char)} (h : ∃ line ∈ lines, Malformed line) :
    ∃ before line behind, lines = before ++ line :: behind ∧ Malformed line ∧
      ∀ l ∈ before, ¬Malformed l := by
  classical
  obtain ⟨line, hline⟩ := Option.isSome_iff_exists.1
    (List.find?_isSome (p := fun line => decide (Malformed line)).2 (by simpa using h))
  obtain ⟨hmalformed, before, behind, hsplit, hbefore⟩ := List.find?_eq_some_iff_append.1 hline
  exact ⟨before, line, behind, hsplit, by simpa using hmalformed, by simpa using hbefore⟩

/-- What a text defines, or what is wrong with it. -/
theorem definitions_cases (text : String) :
    ((∃ line ∈ Text.breakLines text.toList, Malformed line) ∧ ∃ e, definitions text = .error e) ∨
      ∃ pairs, List.Forall₂ Defines (Text.breakLines text.toList) pairs ∧
        definitions text = .ok (Bindings.merge [] pairs.flatten) := by
  have hlines : ∀ line ∈ Text.breakLines text.toList, Text.Unbroken line :=
    Text.unbroken_of_mem_breakLinesFrom (List.forall_mem_nil _)
  by_cases h : ∃ line ∈ Text.breakLines text.toList, Malformed line
  · obtain ⟨before, line, behind, hsplit, hline, hbefore⟩ := exists_firstMalformed h
    rw [hsplit, List.forall_mem_append, List.forall_mem_cons] at hlines
    exact .inl ⟨h, _, (congrArg (defineLines [] 1) hsplit).trans
      (defineLines_eq_error hlines.1 hbefore hlines.2.1 hline [] 1)⟩
  · simp only [not_exists, not_and] at h
    obtain ⟨pairs, hpairs⟩ := exists_forall₂_defines hlines h
    exact .inr ⟨pairs, hpairs, defineLines_of_forall₂ hpairs [] 1⟩

/-- **Reading undoes writing, and the first malformed line is reported.** Definitions that are
written one in a line are read as bindings in which each name has the value of its last definition,
with the names in the order of their first ones. Reading a text fails if one of its lines is neither
blank nor a definition, and only then; the number of the first such line, counted from one, is
reported. -/
theorem definitions_written :
    (∀ {pairs : List (String × String)} {text : String}, Written pairs text.toList →
      ∃ bindings, definitions text = .ok bindings ∧
        bindings.names = (pairs.map Prod.fst).eraseDups ∧
        ∀ name, bindings.find? name = pairs.reverse.lookup name) ∧
    ∀ text : String,
      ((∃ e, definitions text = .error e) ↔
        ∃ line ∈ Text.breakLines text.toList, Malformed line) ∧
      ∀ {before behind : List (List Char)} {line : List Char},
        Text.breakLines text.toList = before ++ line :: behind → Malformed line →
          (∀ l ∈ before, ¬Malformed l) →
            definitions text = .error (.badDefinition (before.length + 1)) := by
  refine ⟨fun {pairs text} hwritten => ?_, fun text => ?_⟩
  · exact ⟨_, hwritten.defineLines_eq [] 1, Bindings.names_merge pairs, Bindings.find?_merge pairs⟩
  have hlines : ∀ line ∈ Text.breakLines text.toList, Text.Unbroken line :=
    Text.unbroken_of_mem_breakLinesFrom (List.forall_mem_nil _)
  have hfirst {before behind : List (List Char)} {line : List Char}
      (hsplit : Text.breakLines text.toList = before ++ line :: behind) (hline : Malformed line)
      (hbefore : ∀ l ∈ before, ¬Malformed l) :
      definitions text = .error (.badDefinition (before.length + 1)) := by
    rw [hsplit, List.forall_mem_append, List.forall_mem_cons] at hlines
    rw [definitions, hsplit, defineLines_eq_error hlines.1 hbefore hlines.2.1 hline, Nat.add_comm]
  refine ⟨⟨fun ⟨e, he⟩ => ?_, fun h => ?_⟩, hfirst⟩
  · by_contra hnone
    simp only [not_exists, not_and] at hnone
    obtain ⟨defined, hdefined⟩ := exists_defineLines hlines hnone [] 1
    cases he.symm.trans hdefined
  · obtain ⟨before, line, behind, hsplit, hline, hbefore⟩ := exists_firstMalformed h
    exact ⟨_, hfirst hsplit hline hbefore⟩

/-- A name that is defined twice, lines that end in four ways, and a line without a value. -/
theorem definitions_written_lines :
    (∃ bindings, definitions "rate=0.19\r\n\u2028 x\t== a b \rrate =2\x0c" = .ok bindings ∧
      bindings.names = ["rate", "x"] ∧ bindings.find? "rate" = some "2" ∧
        bindings.find? "x" = some "= a b") ∧
    definitions "a = 1\r\rb =\nc" = .error (.badDefinition 3) := by
  have hspace : Text.IsGap [' '] := ⟨List.all_eq_true.1 rfl, List.any_eq_false.1 rfl⟩
  have hword : Text.isWord 'a' ∧ Text.isWord 't' ∧ Text.isWord 'e' := by decide +kernel
  let first : Definition := ⟨[], ['r', 'a', 't', 'e'], [], [], ['0', '.', '1', '9'], [],
    Text.isGap_nil, ⟨rfl, by simp [hword]⟩, Text.isGap_nil, Text.isGap_nil, nofun, rfl,
    List.any_eq_false.1 rfl, Text.isGap_nil⟩
  let last : Definition := ⟨[], ['r', 'a', 't', 'e'], [' '], [], ['2'], [],
    Text.isGap_nil, ⟨rfl, by simp [hword]⟩, hspace, Text.isGap_nil, nofun, rfl,
    List.any_eq_false.1 rfl, Text.isGap_nil⟩
  let other : Definition := ⟨[' '], ['x'], ['\t'], [], ['=', ' ', 'a', ' ', 'b'], [' '],
    hspace, ⟨rfl, nofun⟩, ⟨List.all_eq_true.1 rfl, List.any_eq_false.1 rfl⟩, Text.isGap_nil, nofun,
    rfl, List.any_eq_false.1 rfl, hspace⟩
  have hwritten : Written [("rate", "0.19"), ("x", "= a b"), ("rate", "2")]
      "rate=0.19\r\n\u2028 x\t== a b \rrate =2\x0c".toList :=
    .line (.definition first) .pair (.line (.blank Text.isGap_nil) (.single (c := '\u2028') rfl)
      (.line (.definition other) (.single (c := '\r') rfl)
        (.line (.definition last) (.single (c := '\x0c') rfl) (.last (.blank Text.isGap_nil)))))
  constructor
  · obtain ⟨bindings, hread, hnames, hvalues⟩ := definitions_written.1 hwritten
    exact ⟨bindings, hread, hnames, hvalues "rate", hvalues "x"⟩
  · have hsplit : Text.breakLines "a = 1\r\rb =\nc".toList =
        [['a', ' ', '=', ' ', '1'], []] ++ ['b', ' ', '='] :: [['c']] := by decide
    have hbad : Malformed ['b', ' ', '='] :=
      (readLine?_eq_none_iff (List.any_eq_false.1 rfl)).1 (by decide +kernel)
    have hdefinition : ¬Malformed ['a', ' ', '=', ' ', '1'] := fun h =>
      absurd ((readLine?_eq_none_iff (List.any_eq_false.1 rfl)).2 h) (by decide +kernel)
    have hblank : ¬Malformed [] := fun h => h.1 rfl
    exact (definitions_written.2 _).2 hsplit hbad
      (List.forall_mem_cons.2 ⟨hdefinition, List.forall_mem_singleton.2 hblank⟩)

end Template
end Reckoner
