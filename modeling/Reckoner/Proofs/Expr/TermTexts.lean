/-
# The texts of terms

Every term of a sum that was read has a text, and these texts joined by plus signs are a sum again:
the text of the tree in which every difference is the sum with a signed term (`Expr.summed`). Read
back, both evaluate to what they stand for (`terms_reread`). Parentheses do not count for values
(`value_regroup`), and numbers that are displayed in full come back without the zeros at their end,
which do not count either (`Decimal.Pads.run`).
-/

import Reckoner.Proofs.Decimal.Padding
import Reckoner.Proofs.Expr.RunningTotals

namespace Reckoner

/-- The operator of a plus sign. -/
def Operator.plus : Operator := ⟨2, .left, .add⟩

/-- The operator of a sum. -/
theorem Operator.ofSymbol?_plus : ofSymbol? "+" = some plus := rfl

/-- A decimal as a literal writes one, all of whose places are displayed. -/
structure Decimal.Literal (x : Decimal) : Prop where
  explicit : x.Explicit
  nonneg : 0 ≤ x.toRat
  whole : ∃ n : ℤ, x.toRat * 10 ^ displayPlaces = n

/-- All places of a number are displayed if there are no more than that. -/
theorem Decimal.exists_whole {x : Decimal} (h : -(displayPlaces : ℤ) ≤ x.exponent) :
    ∃ n : ℤ, x.toRat * 10 ^ displayPlaces = n := by
  refine ⟨x.signedAt (-displayPlaces), ?_⟩
  rw [toRat_eq_signedAt x h, zpow_neg, zpow_natCast, inv_mul_cancel_right₀ (by positivity)]

/-- **The text of a literal is read as the literal without zeros at its end.** -/
theorem Decimal.Literal.exists_lexeme {x : Decimal} (h : x.Literal) : ∃ y,
    Token.Lexeme (.number y) x.display.toList ∧ y.display = x.display ∧ x.Pads y ∧ y.Explicit := by
  have hpads := Pads.reread h.explicit.exponent_le h.nonneg h.whole
  have hexplicit : x.reread.Explicit :=
    hpads.explicit h.explicit (neg_nonpos.2 (Int.natCast_nonneg _))
  exact ⟨x.reread, lexeme_reread h.nonneg hexplicit.inRange, display_reread h.nonneg, hpads,
    hexplicit⟩

namespace Expr

variable {settings : Settings}

/-- A tree with its differences as sums, where what was subtracted is under a minus. -/
def summed : Expr → Expr
  | binary symbol left right span =>
    if Operator.isAdditive symbol then
      binary "+" left.summed (signedTerm (right, symbol == "-")) span
    else binary symbol left right span
  | e => e

/-- What is no sum is the sum of its one term. -/
theorem summed_of_not_isSum {e : Expr} (h : e.isSum = false) : e.summed = e := by
  cases e with
  | binary symbol left right span => exact if_neg (Bool.eq_false_iff.1 h)
  | _ => rfl

/-- The summands of a tree without stacked powers have none. -/
theorem unstacked_of_mem_summands {e : Expr} (h : e.unstacked) {negated : Bool}
    {p : Expr × Bool} (hp : p ∈ e.summands negated) : p.1.unstacked := by
  induction e generalizing negated with
  | binary symbol left right span ihl ihr =>
    rw [summands] at hp
    split_ifs at hp
    · rw [unstacked, Bool.and_eq_true, Bool.and_eq_true] at h
      rcases List.mem_append.1 hp with hp | hp
      · exact ihl h.1.2 hp
      · exact ihr h.2 hp
    · rwa [List.mem_singleton.1 hp]
  | _ => rwa [List.mem_singleton.1 hp]

/-- The sum of the terms has the numbers of the tree. -/
theorem numbers_summed (e : Expr) : e.summed.numbers = e.numbers := by
  induction e with
  | binary symbol left right span ihl _ =>
    rw [summed]
    split_ifs
    · rw [numbers, numbers, ihl, numbers_signedTerm]
    · rfl
  | _ => rfl

/-- The operators of a tree that was read are known. -/
theorem known_of_wellShaped {e : Expr} (h : e.wellShaped) : e.known := by
  induction e with
  | missing => cases h
  | number => rfl
  | group inner span ih => exact ih h
  | unary symbol operand span ih =>
    rw [wellShaped, Bool.and_eq_true, Bool.and_eq_true] at h
    exact Bool.and_eq_true_iff.2 ⟨h.1.1, ih h.2⟩
  | binary symbol left right span ihl ihr =>
    cases hsymbol : Operator.ofSymbol? symbol with
    | none => simp [wellShaped, hsymbol] at h
    | some operator =>
      obtain ⟨-, hleft, hright⟩ := (wellShaped_binary_iff hsymbol).1 h
      exact known_binary_iff.2 ⟨⟨operator, hsymbol⟩, ihl hleft, ihr hright⟩

/-- A sign keeps a tree known. -/
theorem known_signedTerm {e : Expr} (h : e.known) (negated : Bool) :
    (signedTerm (e, negated)).known := by
  cases negated with
  | false => exact h
  | true => exact h

/-- The sum of the terms is known. -/
theorem known_summed {e : Expr} (h : e.known) : e.summed.known := by
  induction e with
  | binary symbol left right span ihl _ =>
    obtain ⟨-, hleft, hright⟩ := known_binary_iff.1 h
    rw [summed]
    split_ifs
    · exact known_binary_iff.2 ⟨⟨_, rfl⟩, ihl hleft, known_signedTerm hright _⟩
    · exact h
  | _ => exact h

/-- A sign in front of a summand stacks no powers. -/
theorem unstacked_signedTerm {e : Expr} (h : e.unstacked) (negated : Bool) :
    (signedTerm (e, negated)).unstacked := by
  cases negated with
  | false => exact h
  | true => exact h

/-- The sum of the terms stacks no powers that the tree does not. -/
theorem unstacked_summed {e : Expr} (h : e.unstacked) : e.summed.unstacked := by
  induction e with
  | binary symbol left right span ihl _ =>
    rw [summed]
    split_ifs
    · rw [unstacked, Bool.and_eq_true, Bool.and_eq_true] at h
      exact Bool.and_eq_true_iff.2 ⟨ihl h.1.2, unstacked_signedTerm h.2 _⟩
    · exact h
  | _ => exact h

/-- **A sum of signed terms has the value of the tree**, but for the sign of a zero. -/
theorem exists_value_summed {e : Expr} {v : Decimal} (h : e.value settings = .ok v) :
    ∃ w, e.summed.value settings = .ok w ∧ w.Twin v := by
  induction e generalizing v with
  | binary symbol left right span ihl _ =>
    rw [summed]
    split_ifs with hsum
    · obtain ⟨a, b, operator, ha, hb, hoperator, hrun⟩ := value_binary_eq_ok h
      obtain ⟨before, hbefore, htwin⟩ := ihl ha
      obtain ⟨x, total, hx, htotal, htwin⟩ := exists_total hsum hoperator hrun htwin hb
      refine ⟨total, ?_, htwin⟩
      rw [value, hbefore, hx]
      change (Decimal.add before x).mapError _ = _
      rw [htotal]
      rfl
    · exact ⟨v, h, .refl v⟩
  | _ => exact ⟨v, h, .refl v⟩

/-! ### Texts -/

/-- Parentheses do not count for values. -/
theorem value_enclose (needed : Bool) (e : Expr) :
    (enclose needed e).value settings = e.value settings := by
  cases needed <;> rfl

/-- Groups do not change values. -/
theorem value_regroup (e : Expr) : e.regroup.value settings = e.value settings := by
  induction e with
  | missing | number => rfl
  | group inner span ih => exact ih
  | unary symbol operand span ih => rw [regroup, value, value, value_enclose, ih]
  | binary symbol left right span ihl ihr =>
    rw [regroup, value, value, value_enclose, value_enclose, ihl, ihr]

/-- No operator is weaker than a plus sign. -/
theorem atLeast_plus_of_known {e : Expr} (h : e.known) : e.atLeast Operator.plus.strength := by
  cases e with
  | binary symbol left right span =>
    obtain ⟨⟨operator, hsymbol⟩, -⟩ := known_binary_iff.1 h
    have key : ∀ x ∈ Operator.table, Operator.plus.strength ≤ x.2.strength := by decide
    exact (atLeast_iff hsymbol).2 (key _ (Operator.mem_table_of_ofSymbol? hsymbol))
  | _ => rfl

/-- What fits on the right of a sum or difference fits there in a sum, under a sign or not. -/
theorem atLeast_signedTerm {symbol : String} (hsymbol : Operator.isAdditive symbol)
    {operator : Operator} (hoperator : Operator.ofSymbol? symbol = some operator) {right : Expr}
    (h : right.atLeast operator.rightStrength) (negated : Bool) :
    (signedTerm (right, negated)).atLeast Operator.plus.rightStrength := by
  have key : ∀ x ∈ Operator.table, Operator.isAdditive x.1 →
      x.2.rightStrength = Operator.plus.rightStrength := by decide
  rw [key _ (Operator.mem_table_of_ofSymbol? hoperator) hsymbol] at h
  cases negated with
  | false => exact h
  | true => rfl

/-- The right operand of a sum or difference that was read is a single summand, and a right operand
of a sum. -/
theorem summands_binary {symbol : String} (hsymbol : Operator.isAdditive symbol) {left right : Expr}
    {span : Span} (h : (binary symbol left right span).wellShaped) :
    (binary symbol left right span).summands false =
      left.summands false ++ [(right, symbol == "-")] ∧ left.wellShaped ∧ right.wellShaped ∧
        ∀ negated, (signedTerm (right, negated)).atLeast Operator.plus.rightStrength := by
  cases hoperator : Operator.ofSymbol? symbol with
  | none => simp [wellShaped, hoperator] at h
  | some operator =>
    obtain ⟨⟨-, hfits⟩, hleft, hright⟩ := (wellShaped_binary_iff hoperator).1 h
    refine ⟨?_, hleft, hright, atLeast_signedTerm hsymbol hoperator hfits⟩
    rw [summands, if_pos hsymbol, summands_of_not_isSum (isSum_of_atLeast hsymbol hoperator hfits),
      Bool.false_bne]

/-- One tree has one text. -/
theorem mapM_plainPrint_singleton {e : Expr} {texts : List String}
    (h : [e].mapM plainPrint = .ok texts) : ∃ text, texts = [text] ∧ e.plainPrint = .ok text := by
  rw [List.mapM_cons] at h
  obtain ⟨text, htext, h⟩ := bind_eq_ok_iff.1 h
  cases h
  exact ⟨text, rfl, htext⟩

/-- The text of the sum of one term is the text of the term. -/
theorem plainPrint_summed_of_not_isSum {e : Expr} (hsum : e.isSum = false) {texts : List String}
    (htexts : ((e.summands false).map signedTerm).mapM plainPrint = .ok texts) :
    e.summed.plainPrint = .ok (" + ".intercalate texts) := by
  rw [summands_of_not_isSum hsum] at htexts
  obtain ⟨text, rfl, htext⟩ := mapM_plainPrint_singleton htexts
  rw [summed_of_not_isSum hsum, String.intercalate_singleton]
  exact htext

/-- **The texts of the terms, joined by plus signs, are the text of the sum of signed terms.** -/
theorem plainPrint_summed {e : Expr} (h : e.wellShaped) {texts : List String}
    (htexts : ((e.summands false).map signedTerm).mapM plainPrint = .ok texts) :
    e.summed.plainPrint = .ok (" + ".intercalate texts) := by
  induction e generalizing texts with
  | binary symbol left right span ihl _ =>
    cases hsum : Operator.isAdditive symbol with
    | false =>
      exact plainPrint_summed_of_not_isSum (e := binary symbol left right span) hsum htexts
    | true =>
      obtain ⟨hsummands, hleft, -, hfits⟩ := summands_binary hsum h
      rw [hsummands, List.map_append, List.map_singleton, List.mapM_append] at htexts
      obtain ⟨before, hbefore, htexts⟩ := bind_eq_ok_iff.1 htexts
      obtain ⟨after, hafter, htexts⟩ := bind_eq_ok_iff.1 htexts
      cases htexts
      obtain ⟨text, rfl, htext⟩ := mapM_plainPrint_singleton hafter
      have hne : before ≠ [] := by
        rintro rfl
        have hlength := (forall₂_of_mapM hbefore).length_eq
        rw [List.length_map] at hlength
        exact summands_ne_nil left false (List.length_eq_zero_iff.1 hlength)
      have hleast := atLeast_plus_of_known (known_summed (known_of_wellShaped hleft))
      have hfits := hfits (symbol == "-")
      rw [summed, if_pos hsum, plainPrint_binary Operator.ofSymbol?_plus
        (atLeast_mono (Nat.zero_le _) hleast) (atLeast_mono (Nat.zero_le _) hfits)
        (ihl hleft hbefore) htext, hleast, hfits,
        String.intercalate_append_of_ne_nil hne (List.cons_ne_nil _ _),
        String.intercalate_singleton]
      simp only [wrap, Bool.not_true, Bool.false_eq_true, if_false, String.append_assoc]
      rfl
  | _ => exact plainPrint_summed_of_not_isSum rfl htexts

/-- The sum of signed terms has one level more than its terms. -/
theorem nesting_regroup_summed {e : Expr} (h : e.wellShaped) {depth : ℕ}
    (hterms : ∀ p ∈ e.summands false, (signedTerm p).regroup.nesting < depth) :
    e.summed.regroup.nesting ≤ depth := by
  have hsingle : ∀ d : Expr, d.isSum = false →
      (∀ p ∈ d.summands false, (signedTerm p).regroup.nesting < depth) →
        d.summed.regroup.nesting ≤ depth := by
    intro d hsum hterms
    rw [summands_of_not_isSum hsum] at hterms
    rw [summed_of_not_isSum hsum]
    exact (List.forall_mem_singleton.1 hterms).le
  induction e with
  | binary symbol left right span ihl _ =>
    cases hsum : Operator.isAdditive symbol with
    | false => exact hsingle (binary symbol left right span) hsum hterms
    | true =>
      obtain ⟨hsummands, hleft, -, hfits⟩ := summands_binary hsum h
      rw [hsummands, List.forall_mem_append, List.forall_mem_singleton] at hterms
      have hleast := atLeast_plus_of_known (known_summed (known_of_wellShaped hleft))
      rw [summed, if_pos hsum, regroup_binary Operator.ofSymbol?_plus, hleast, hfits, nesting]
      exact max_le (ihl hleft hterms.1) hterms.2
  | _ => exact hsingle _ rfl hterms

/-! ### Reading back -/

/-- The text is read, and what is read is evaluated to the number. -/
def Denotes (settings : Settings) (text : String) (q : ℚ) : Prop :=
  ∃ e v steps, ofText text = .ok e ∧ e.evaluate settings = .ok (v, steps) ∧ v.toRat = q

/-- **The text of a tree of literals denotes its value.** -/
theorem denotes_plainPrint {e : Expr} (hknown : e.known) (hstack : e.unstacked)
    (hnumbers : ∀ x ∈ e.numbers, x.Literal) (hlevels : e.regroup.nesting ≤ nestingLimit)
    {v : Decimal} (hv : e.value settings = .ok v) {text : String}
    (htext : e.plainPrint = .ok text) : Denotes settings text v.toRat := by
  obtain ⟨text', htext', hrenders⟩ := exists_renders (R := fun x y => x.Pads y ∧ y.Explicit) hknown
    hstack fun x hx => (hnumbers x hx).exists_lexeme
  obtain rfl := Except.ok.inj (htext.symm.trans htext')
  obtain ⟨tokens, read, hscans, hderives, hmatches, -⟩ := hrenders 0
  obtain ⟨w, hw, hpads, -⟩ := hmatches.value settings
    (fun h => ⟨h.1.negate, h.2.negate⟩)
    (fun ha hb h =>
      let ⟨c', hc', hpads⟩ := ha.1.run hb.1 ha.2.exponent_le hb.2.exponent_le h
      ⟨c', hc', hpads, Decimal.explicit_of_run hc' ha.2 hb.2⟩)
    ((value_regroup e).trans hv)
  have hlevels := hmatches.nesting_eq.trans_le hlevels
  obtain ⟨steps, hsteps⟩ := exists_evaluate hlevels hw
  exact ⟨read, w, steps, ofText_eq_ok_iff.2 ⟨tokens, hscans, hderives, hlevels⟩, hsteps,
    hpads.toRat_eq.symm⟩

/-- The literals of a text, if all their places are displayed. -/
theorem literal_of_ofText {source : String} {e : Expr} (h : ofText source = .ok e)
    (hplaces : ∀ x ∈ e.numbers, ∃ n : ℤ, x.toRat * 10 ^ Decimal.displayPlaces = n) :
    ∀ x ∈ e.numbers, x.Literal := by
  intro x hx
  obtain ⟨tokens, hscans, hderives, -⟩ := ofText_eq_ok_iff.1 h
  obtain ⟨token, htoken, hkind⟩ := hderives.exists_of_mem_numbers x hx
  obtain ⟨-, hsign, -, -⟩ := hscans.number htoken hkind
  have hneg := mt (Decimal.toRat_neg_iff x).1 fun hneg => by simp [hsign] at hneg
  exact ⟨explicit_of_ofText h x hx, not_lt.1 hneg, hplaces x hx⟩

/-- The rows of some terms, last one first. -/
theorem rows_of_foldlM {values texts : ℕ} {terms : List Expr} {done rows : List TermRow}
    (h : terms.foldlM (addRow settings values texts) done = .ok rows)
    (hdone : ∀ row ∈ done, Records settings values texts row) :
    rows.reverse.map TermRow.term = done.reverse.map TermRow.term ++ terms ∧
      ∀ row ∈ rows, Records settings values texts row := by
  induction terms generalizing done with
  | nil =>
    cases h
    exact ⟨(List.append_nil _).symm, hdone⟩
  | cons term terms ih =>
    rw [List.foldlM_cons] at h
    obtain ⟨next, hnext, hrest⟩ := bind_eq_ok_iff.1 h
    obtain ⟨row, rfl, rfl, hrow, -⟩ := addRow_eq_ok hnext
    obtain ⟨hterms, hrecords⟩ := ih hrest (List.forall_mem_cons.2 ⟨hrow, hdone⟩)
    refine ⟨?_, hrecords⟩
    rw [hterms, List.reverse_cons, List.map_append, List.append_assoc]
    rfl

/-- **The texts of terms account for the value.** A text that was read and has a value, and of whose
literals all places are displayed, has a summary. Unless a term has too many levels, the texts of
its rows, joined by plus signs, are read and evaluated to a number that is the value, and the text
of each row to the value of the row. -/
theorem terms_reread {source : String} {e : Expr} (hread : ofText source = .ok e)
    (hplaces : ∀ x ∈ e.numbers, ∃ n : ℤ, x.toRat * 10 ^ Decimal.displayPlaces = n) {v : Decimal}
    {steps : List Step} (h : e.evaluate settings = .ok (v, steps)) :
    ∃ rows, e.summarize settings = .ok rows ∧ e.terms = .ok (rows.map TermRow.term) ∧
      (∀ row ∈ rows, row.term.print = .ok row.text) ∧
      ((∀ row ∈ rows, row.term.regroup.nesting < nestingLimit) →
        Denotes settings (" + ".intercalate (rows.map TermRow.text)) v.toRat ∧
          ∀ row ∈ rows, Denotes settings row.text row.value.toRat) := by
  obtain ⟨tokens, -, hderives, -⟩ := ofText_eq_ok_iff.1 hread
  have hshape := hderives.wellShaped
  have hliterals := literal_of_ofText hread hplaces
  obtain ⟨hnesting, hvalue, -⟩ := evaluate_eq_ok h
  obtain ⟨reversed, hfold, -⟩ := exists_totals hshape hnesting (explicit_of_ofText hread) hvalue
  obtain ⟨hterms, hrecords⟩ := rows_of_foldlM hfold fun _ hrow => absurd hrow List.not_mem_nil
  have hterms : reversed.reverse.map TermRow.term = (e.summands false).map signedTerm := hterms
  have hrecords : ∀ row ∈ reversed.reverse, Records settings nestingLimit printingLimit row :=
    fun row hrow => hrecords row (List.mem_reverse.1 hrow)
  generalize hrows : reversed.reverse = rows at hterms hrecords
  have htexts : ∀ row ∈ rows, row.term.plainPrint = .ok row.text := fun row hrow =>
    (print_eq_plainPrint (hrecords row hrow).nesting).symm.trans (hrecords row hrow).print
  have hsummand : ∀ row ∈ rows, ∃ p ∈ e.summands false, signedTerm p = row.term := by
    intro row hrow
    rw [← List.mem_map, ← hterms]
    exact List.mem_map_of_mem hrow
  refine ⟨rows, ?_, ?_, fun row hrow => (hrecords row hrow).print, fun hlevels => ⟨?_, ?_⟩⟩
  · rw [summarize_eq hshape, printingLimit, hfold, ← hrows]
    rfl
  · rw [hterms, terms_eq hshape]
  · obtain ⟨w, hw, htwin⟩ := exists_value_summed hvalue
    have hprint : e.summed.plainPrint = .ok (" + ".intercalate (rows.map TermRow.text)) := by
      refine plainPrint_summed hshape ?_
      rw [← hterms, List.mapM_map]
      exact mapM_eq_ok htexts
    have hlevels : e.summed.regroup.nesting ≤ nestingLimit := by
      refine nesting_regroup_summed hshape fun p hp => ?_
      obtain ⟨row, hrow, hterm⟩ := List.mem_map.1 (hterms ▸ List.mem_map_of_mem hp)
      exact hterm ▸ hlevels row hrow
    rw [← htwin.toRat_eq]
    exact denotes_plainPrint (known_summed (known_of_wellShaped hshape))
      (unstacked_summed hderives.unstacked) (numbers_summed e ▸ hliterals) hlevels hw hprint
  · intro row hrow
    obtain ⟨⟨d, negated⟩, hp, hterm⟩ := hsummand row hrow
    refine denotes_plainPrint ?_ ?_ ?_ (hlevels row hrow).le (hrecords row hrow).value
      (htexts row hrow)
    · rw [← hterm]
      exact known_signedTerm (known_of_wellShaped (wellShaped_of_mem_summands hshape hp)) negated
    · rw [← hterm]
      exact unstacked_signedTerm (unstacked_of_mem_summands hderives.unstacked hp) negated
    · rw [← hterm, numbers_signedTerm]
      exact fun x hx => hliterals x (numbers_subset_of_mem_summands hp hx)

/-- The terms of `1 - 2 * 3 - 0.50 ^ 2` are 1, minus 6 and minus a quarter. -/
theorem terms_reread_differences :
    let product :=
      binary "*" (number ⟨false, 2, 0⟩ "2" ⟨4, 5⟩) (number ⟨false, 3, 0⟩ "3" ⟨8, 9⟩) ⟨4, 9⟩
    let square :=
      binary "^" (number ⟨false, 50, -2⟩ "0.50" ⟨12, 16⟩) (number ⟨false, 2, 0⟩ "2" ⟨19, 20⟩)
        ⟨12, 20⟩
    let e := binary "-" (binary "-" (number .one "1" ⟨0, 1⟩) product ⟨0, 9⟩) square ⟨0, 20⟩
    ofText "1 - 2 * 3 - 0.50 ^ 2" = .ok e ∧
      (∃ steps, e.evaluate {} = .ok (⟨true, 52500, -4⟩, steps)) ∧
      ∃ rows, e.summarize {} = .ok rows ∧
        rows.map TermRow.text = ["1", "-(2 * 3)", "-(0.5 ^ 2)"] ∧
        Denotes {} "1 + -(2 * 3) + -(0.5 ^ 2)" (-21 / 4) ∧
        ∃ row ∈ rows, row.text = "-(0.5 ^ 2)" ∧ Denotes {} "-(0.5 ^ 2)" row.value.toRat := by
  intro product square e
  have hread : ofText "1 - 2 * 3 - 0.50 ^ 2" = .ok e := by decide +kernel
  have hvalue : e.value {} = .ok ⟨true, 52500, -4⟩ := by decide +kernel
  obtain ⟨steps, hsteps⟩ := exists_evaluate (show e.nesting ≤ nestingLimit by decide) hvalue
  have hplaces : ∀ x ∈ e.numbers, -(Decimal.displayPlaces : ℤ) ≤ x.exponent := by decide
  obtain ⟨rows, hsummary, hterms, hprint, hdenotes⟩ :=
    terms_reread hread (fun x hx => Decimal.exists_whole (hplaces x hx)) hsteps
  rw [terms_eq (show e.wellShaped by decide), Except.ok.injEq] at hterms
  have hlevels : ∀ row ∈ rows, row.term.regroup.nesting < nestingLimit := by
    refine (List.forall_mem_map (P := fun d : Expr => d.regroup.nesting < nestingLimit)).1 ?_
    rw [← hterms]
    decide
  have hterms : rows.map TermRow.term = [number .one "1" ⟨0, 1⟩, unary "-" product ⟨4, 9⟩,
    unary "-" square ⟨12, 20⟩] := hterms.symm
  obtain ⟨one, rest, rfl, hone, hrest⟩ := List.map_eq_cons_iff.1 hterms
  obtain ⟨six, rest, rfl, hsix, hrest⟩ := List.map_eq_cons_iff.1 hrest
  obtain ⟨quarter, rfl, hquarter⟩ := List.map_eq_singleton_iff.1 hrest
  have htext : ∀ row ∈ [one, six, quarter], ∀ {d : Expr} {text : String}, row.term = d →
      d.print = .ok text → row.text = text := fun row hrow _ _ hterm hd =>
    Except.ok.inj ((hprint row hrow).symm.trans (hterm ▸ hd))
  have htextOne : one.text = "1" :=
    htext one (by simp) hone ((print_eq_plainPrint (by decide)).trans rfl)
  have htextSix : six.text = "-(2 * 3)" :=
    htext six (by simp) hsix ((print_eq_plainPrint (by decide)).trans rfl)
  have htextQuarter : quarter.text = "-(0.5 ^ 2)" :=
    htext quarter (by simp) hquarter ((print_eq_plainPrint (by decide)).trans rfl)
  have htexts : [one, six, quarter].map TermRow.text = ["1", "-(2 * 3)", "-(0.5 ^ 2)"] := by
    rw [List.map_cons, List.map_cons, List.map_singleton, htextOne, htextSix, htextQuarter]
  obtain ⟨hsum, hrows⟩ := hdenotes hlevels
  have hquarterRow := hrows quarter (by simp)
  rw [htextQuarter] at hquarterRow
  rw [htexts, show (⟨true, 52500, -4⟩ : Decimal).toRat = -21 / 4 by
    norm_num [Decimal.toRat, Decimal.signed]] at hsum
  exact ⟨hread, ⟨steps, hsteps⟩, _, hsummary, htexts, hsum, quarter, by simp, htextQuarter,
    hquarterRow⟩

end Expr
end Reckoner
