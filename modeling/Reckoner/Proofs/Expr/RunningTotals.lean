/-
# Running totals

A sum is evaluated along its spine, and its terms are evaluated alone, under their signs, and added
to a running total. The two agree. For any tree the last total is numerically the value, since both
are the sum of the summands (`toRat_lastTotal`). For a tree that was read, where no right operand of
a sum is a sum, each total is the partial sum on the spine, but for the sign of a zero
(`exists_totals`), so the totals exist whenever the value does.
-/

import Reckoner.Proofs.Expr.RoundTrip
import Reckoner.Proofs.Expr.Summands

namespace Reckoner

/-- Whether a row is that of a term, below `n` rows of which the last total is `before`, if at most
`values` levels of the term are evaluated and its text takes at most `texts` levels. -/
structure TermRow.Continues (settings : Settings) (values texts n : ℕ) (before : Decimal)
    (term : Expr) (row : TermRow) : Prop where
  index : row.index = n + 1
  holds : row.term = term
  text : term.print texts = .ok row.text
  value : ∃ steps, term.evaluate settings values = .ok (row.value, steps)
  total : before.add row.value = .ok row.total

namespace Expr

variable {settings : Settings} {values texts levels : ℕ}

/-- The total behind the rows so far, of which the last comes first. -/
def lastTotal (rows : List TermRow) : Decimal := (rows.head?.map TermRow.total).getD Decimal.zero

/-- The index of the last of the rows so far, of which the last comes first. -/
def lastIndex (rows : List TermRow) : ℕ := (rows.head?.map TermRow.index).getD 0

/-- Whether a row holds the value and the text of its term alone. -/
structure Records (settings : Settings) (values texts : ℕ) (row : TermRow) : Prop where
  nesting : row.term.nesting ≤ values
  value : row.term.value settings = .ok row.value
  print : row.term.print texts = .ok row.text

/-- **What a row that is added holds.** -/
theorem addRow_eq_ok_iff {done rows : List TermRow} {term : Expr} :
    addRow settings values texts done term = .ok rows ↔ ∃ row : TermRow, rows = row :: done ∧
      row.Continues settings values texts (lastIndex done) (lastTotal done) term := by
  constructor
  · intro h
    obtain ⟨⟨x, steps⟩, hx, h⟩ := bind_eq_ok_iff.1 h
    obtain ⟨total, htotal, h⟩ := bind_eq_ok_iff.1 h
    obtain ⟨text, htext, h⟩ := bind_eq_ok_iff.1 h
    cases h
    exact ⟨_, rfl, rfl, rfl, mapError_eq_ok_iff.1 htext, ⟨steps, mapError_eq_ok_iff.1 hx⟩,
      mapError_eq_ok_iff.1 htotal⟩
  · rintro ⟨⟨index, term, text, x, total⟩, rfl, rfl, rfl, htext, ⟨steps, hx⟩, htotal⟩
    exact bind_eq_ok_iff.2 ⟨_, mapError_eq_ok_iff.2 hx, bind_eq_ok_iff.2 ⟨_,
      mapError_eq_ok_iff.2 htotal, bind_eq_ok_iff.2 ⟨_, mapError_eq_ok_iff.2 htext, rfl⟩⟩⟩

/-- A row that was added is that of its term, and holds the next total. -/
theorem addRow_eq_ok {done rows : List TermRow} {term : Expr}
    (h : addRow settings values texts done term = .ok rows) : ∃ row, rows = row :: done ∧
      row.term = term ∧ Records settings values texts row ∧
        (lastTotal done).add row.value = .ok row.total := by
  obtain ⟨row, rfl, -, rfl, htext, ⟨_, hvalue⟩, htotal⟩ := addRow_eq_ok_iff.1 h
  obtain ⟨hnesting, hvalue, -⟩ := evaluate_eq_ok hvalue
  exact ⟨row, rfl, rfl, ⟨hnesting, hvalue, htext⟩, htotal⟩

/-- A row is added if its term has no more levels than there are, a value, a total and a text. -/
theorem exists_addRow {done : List TermRow} {term : Expr} (hnesting : term.nesting ≤ levels)
    {x : Decimal} (hx : term.value settings = .ok x) {total : Decimal}
    (htotal : (lastTotal done).add x = .ok total) {text : String}
    (htext : term.plainPrint = .ok text) : ∃ row,
      addRow settings levels (2 * levels) done term = .ok (row :: done) ∧ row.term = term ∧
        row.total = total := by
  have htext := (print_eq_of_le (Nat.mul_le_mul_left 2 hnesting)).trans htext
  exact ⟨⟨lastIndex done + 1, term, text, x, total⟩,
    addRow_eq_ok_iff.2 ⟨_, rfl, rfl, rfl, htext, exists_evaluate hnesting hx, htotal⟩, rfl, rfl⟩

/-! ### The last total -/

/-- A term is the summand, behind a minus if it is negated. -/
theorem asTerm_eq_ok {e term : Expr} {negated : Bool} (h : asTerm negated e = .ok term) :
    term = if negated then unary "-" e e.span else e := by
  cases negated with
  | false => exact (Except.ok.inj h).symm
  | true =>
    rw [asTerm, if_pos rfl] at h
    split at h
    · rename_i span hspan
      cases h
      rw [if_pos rfl, Expr.span, hspan]
      rfl
    · cases h

/-- A summand with its sign as a term. -/
def signedTerm (p : Expr × Bool) : Expr := if p.2 then unary "-" p.1 p.1.span else p.1

/-- Only a missing node cannot be put under a minus. -/
theorem asTerm_eq_signedTerm {p : Expr × Bool} (h : p ≠ (missing, true)) :
    asTerm p.2 p.1 = .ok (signedTerm p) := by
  obtain ⟨e, negated⟩ := p
  cases negated with
  | false => rfl
  | true =>
    cases e with
    | missing => exact absurd rfl h
    | _ => rfl

/-- A sign adds no number. -/
theorem numbers_signedTerm (p : Expr × Bool) : (signedTerm p).numbers = p.1.numbers := by
  rw [signedTerm]
  split_ifs <;> rfl

/-- The value behind a minus is negated. -/
theorem value_unary_minus (e : Expr) (span : Span) :
    (unary "-" e span).value settings = (e.value settings).map Decimal.negate := by
  rw [value]
  cases e.value settings <;> rfl

/-- A term adds what its summand adds. -/
theorem addend_signedTerm (p : Expr × Bool) :
    addend settings (signedTerm p, false) = addend settings p := by
  obtain ⟨e, negated⟩ := p
  cases negated with
  | false => rfl
  | true =>
    rw [signedTerm, if_pos rfl, addend, addend, value_unary_minus]
    cases e.value settings with
    | error err => rfl
    | ok x => exact Decimal.toRat_negate x

/-- The terms of a tree are its summands with their signs. -/
theorem terms_eq_ok {e : Expr} {terms : List Expr} (h : e.terms = .ok terms) :
    terms = (e.summands false).map signedTerm := by
  rw [Expr.terms, splitTerms_eq, List.flatMap_singleton] at h
  obtain ⟨signed, hsigned, h⟩ := bind_eq_ok_iff.1 h
  cases h
  have hall := forall₂_of_mapM hsigned
  rw [List.reverse_nil, List.nil_append, ← List.forall₂_eq_eq_eq, List.forall₂_map_right_iff]
  exact hall.flip.imp fun _ _ h => asTerm_eq_ok h

/-- The summands of a well-shaped tree are well-shaped. -/
theorem wellShaped_of_mem_summands {e : Expr} (h : e.wellShaped) {negated : Bool}
    {p : Expr × Bool} (hp : p ∈ e.summands negated) : p.1.wellShaped := by
  induction e generalizing negated with
  | binary symbol left right span ihl ihr =>
    rw [summands] at hp
    split_ifs at hp
    · have hparts := Bool.and_eq_true_iff.1 h
      rcases List.mem_append.1 hp with hp | hp
      · exact ihl (Bool.and_eq_true_iff.1 hparts.1).2 hp
      · exact ihr hparts.2 hp
    · rwa [List.mem_singleton.1 hp]
  | _ => rwa [List.mem_singleton.1 hp]

/-- A well-shaped tree has terms. -/
theorem terms_eq {e : Expr} (h : e.wellShaped) :
    e.terms = .ok ((e.summands false).map signedTerm) := by
  have hterm : ∀ p ∈ e.summands false, asTerm p.2 p.1 = .ok (signedTerm p) := by
    refine fun p hp => asTerm_eq_signedTerm fun hmissing => ?_
    have hshape := wellShaped_of_mem_summands h hp
    rw [hmissing] at hshape
    cases hshape
  rw [Expr.terms, splitTerms_eq, List.flatMap_singleton, mapM_eq_ok hterm]
  rfl

/-- The summary of a well-shaped tree has the rows of its summands under their signs. -/
theorem summarize_eq {e : Expr} (h : e.wellShaped) : e.summarize settings values texts =
    ((e.summands false).map signedTerm).foldlM (addRow settings values texts) [] >>=
      fun rows => .ok rows.reverse := by
  rw [summarize, terms_eq h]
  rfl

/-- **The last total is the sum of what the terms add.** -/
theorem toRat_lastTotal {terms : List Expr} {done rows : List TermRow}
    (h : terms.foldlM (addRow settings values texts) done = .ok rows)
    (hnumbers : ∀ term ∈ terms, ∀ x ∈ term.numbers, Decimal.lowest ≤ x.exponent)
    (hlow : Decimal.lowest ≤ (lastTotal done).exponent) :
    rows.length = done.length + terms.length ∧ (lastTotal rows).toRat =
      (lastTotal done).toRat + (terms.map fun term => addend settings (term, false)).sum := by
  induction terms generalizing done with
  | nil =>
    cases h
    simp
  | cons term terms ih =>
    rw [List.foldlM_cons] at h
    obtain ⟨next, hnext, hrest⟩ := bind_eq_ok_iff.1 h
    obtain ⟨row, rfl, rfl, hrow, htotal⟩ := addRow_eq_ok hnext
    obtain ⟨hnumbersX, hnumbers⟩ := List.forall_mem_cons.1 hnumbers
    have hsum := Decimal.toRat_add htotal hlow (lowest_le_exponent_of_value hnumbersX hrow.value)
    obtain ⟨hlength, hlast⟩ := ih hrest hnumbers (Decimal.lowest_le_exponent_of_add htotal)
    have hadd : addend settings (row.term, false) = row.value.toRat := by
      rw [addend, hrow.value]
      rfl
    refine ⟨?_, ?_⟩
    · rw [hlength, List.length_cons, List.length_cons]
      omega
    · rw [hlast, List.map_cons, List.sum_cons, hadd, ← add_assoc, ← hsum]
      rfl

/-- **The last total is the value.** -/
theorem total_eq_value {e : Expr} (hnumbers : ∀ x ∈ e.numbers, x.inRange) {v : Decimal}
    {steps : List Step} (h : e.evaluate settings = .ok (v, steps)) {rows : List TermRow}
    (hrows : e.summarize settings = .ok rows) : ∃ row, rows.getLast? = some row ∧
      row.total.toRat = v.toRat ∧ row.total.display = v.display := by
  obtain ⟨terms, hterms, hrows⟩ := bind_eq_ok_iff.1 hrows
  obtain ⟨reversed, hfold, hrows⟩ := bind_eq_ok_iff.1 hrows
  cases hrows
  obtain rfl := terms_eq_ok hterms
  have hlow : ∀ x ∈ e.numbers, Decimal.lowest ≤ x.exponent := fun x hx =>
    ((Decimal.inRange_iff x).1 (hnumbers x hx)).1
  obtain ⟨hlength, hlast⟩ := toRat_lastTotal hfold (fun term hterm x hx => by
    obtain ⟨p, hp, rfl⟩ := List.mem_map.1 hterm
    rw [numbers_signedTerm] at hx
    exact hlow x (numbers_subset_of_mem_summands hp hx)) Decimal.lowest_nonpos
  have hsum := sum_addend_eq_toRat hlow (evaluate_eq_ok h).2.1 false
  have hne : reversed ≠ [] := by
    have := List.length_pos_iff.2 (summands_ne_nil e false)
    rw [List.length_map] at hlength
    exact List.length_pos_iff.1 (by omega)
  obtain ⟨row, rest, rfl⟩ := List.exists_cons_of_ne_nil hne
  have htotal : row.total.toRat = v.toRat := by
    rw [List.map_map, show (fun term => addend settings (term, false)) ∘ signedTerm =
      addend settings from funext addend_signedTerm, hsum,
      show (lastTotal []).toRat = 0 from Decimal.toRat_zero, zero_add] at hlast
    exact hlast
  exact ⟨row, by rw [List.getLast?_reverse]; rfl, htotal, Decimal.display_eq_of_toRat_eq htotal⟩

/-! ### The totals of a tree that was read -/

/-- The sums and differences on the spine of a tree down to the first other node, lowest first. -/
def sums : Expr → List Expr
  | binary symbol left right span =>
    if Operator.isAdditive symbol then left.sums ++ [binary symbol left right span] else []
  | _ => []

/-- A tree that is no sum has no sums in it. -/
theorem sums_of_not_isSum {e : Expr} (h : e.isSum = false) : e.sums = [] := by
  cases e with
  | binary symbol left right span => exact if_neg (Bool.eq_false_iff.1 h)
  | _ => rfl

/-- The sums of a tree are operations of it. -/
theorem mem_operations_of_mem_sums {e node : Expr} (h : node ∈ e.sums) : node ∈ e.operations := by
  induction e with
  | binary symbol left right span ihl _ =>
    rw [sums] at h
    split_ifs at h
    · rw [operations]
      rcases List.mem_append.1 h with h | h
      · exact List.mem_append_left _ (List.mem_append_left _ (ihl h))
      · exact List.mem_append_right _ h
    · exact absurd h List.not_mem_nil
  | _ => exact absurd h List.not_mem_nil

/-- Whether a row holds the right operand of a sum, or of a difference under a minus. -/
def Joins (node : Expr) (row : TermRow) : Prop :=
  ∃ symbol left right span, node = binary symbol left right span ∧
    row.term = signedTerm (right, symbol == "-")

/-- A right operand of a sum that was read is no sum. -/
theorem isSum_of_atLeast {symbol : String} (hsymbol : Operator.isAdditive symbol)
    {operator : Operator} (hoperator : Operator.ofSymbol? symbol = some operator) {right : Expr}
    (h : right.atLeast operator.rightStrength) : right.isSum = false := by
  cases right with
  | binary child l r span =>
    rw [atLeast, Option.any_eq_true] at h
    obtain ⟨inner, hinner, hle⟩ := h
    have key : ∀ x ∈ Operator.table, ∀ y ∈ Operator.table, Operator.isAdditive x.1 →
        x.2.rightStrength ≤ y.2.strength → Operator.isAdditive y.1 = false := by decide
    exact key _ (Operator.mem_table_of_ofSymbol? hoperator) _
      (Operator.mem_table_of_ofSymbol? hinner)
      hsymbol (of_decide_eq_true hle)
  | _ => rfl

/-- The term of a right operand has a value, which adds to a total what the operator does. -/
theorem exists_total {symbol : String} (hsymbol : Operator.isAdditive symbol) {operator : Operator}
    (hoperator : Operator.ofSymbol? symbol = some operator) {a b v before : Decimal}
    (hrun : operator.operation.run settings a b = .ok v) (hbefore : before.Twin a) {right : Expr}
    (hb : right.value settings = .ok b) : ∃ x total,
      (signedTerm (right, symbol == "-")).value settings = .ok x ∧ before.add x = .ok total ∧
        total.Twin v := by
  rw [Operator.isAdditive, Bool.or_eq_true, beq_iff_eq, beq_iff_eq] at hsymbol
  rcases hsymbol with rfl | rfl
  · obtain rfl : (⟨2, .left, .add⟩ : Operator) = operator := Option.some.inj hoperator
    obtain ⟨total, htotal, htwin⟩ := hbefore.symm.add (.refl b) hrun
    exact ⟨b, total, hb, htotal, htwin.symm⟩
  · obtain rfl : (⟨2, .left, .subtract⟩ : Operator) = operator := Option.some.inj hoperator
    obtain ⟨total, htotal, htwin⟩ := hbefore.symm.add (Decimal.twin_negate_flip b).symm hrun
    refine ⟨b.negate, total, ?_, htotal, htwin.symm⟩
    exact (value_unary_minus right right.span).trans (by rw [hb]; rfl)

/-- The term of a well-shaped summand has a text. -/
theorem exists_plainPrint_signedTerm {e : Expr} (h : e.wellShaped) (negated : Bool) :
    ∃ text, (signedTerm (e, negated)).plainPrint = .ok text := by
  obtain ⟨text, htext⟩ := exists_plainPrint h
  cases negated with
  | false => exact ⟨text, htext⟩
  | true =>
    refine ⟨"-" ++ wrap e.needsParentheses text, ?_⟩
    rw [signedTerm, if_pos rfl, plainPrint, htext]
    rfl

/-- A sign adds one level at most. -/
theorem nesting_signedTerm_le (p : Expr × Bool) : (signedTerm p).nesting ≤ p.1.nesting + 1 := by
  rw [signedTerm]
  split_ifs
  · exact le_rfl
  · exact Nat.le_succ _

/-- The rows of a sum: behind the first one, one for each sum on the spine, which holds its right
operand as a term and its value as a total. -/
structure Totals (settings : Settings) (e : Expr) (v : Decimal) (rows : List TermRow) : Prop where
  twin : (lastTotal rows).Twin v
  rest : ∃ first rest, rows = rest ++ [first] ∧
    List.Forall₂ (fun node row => Joins node row ∧
      ∃ w, node.value settings = .ok w ∧ w.toRat = row.total.toRat) e.sums rest.reverse

section Totals

variable {e : Expr} {v : Decimal}

/-- A tree that is no sum has one row, and its total is the value. -/
theorem exists_totals_of_not_isSum (hsum : e.isSum = false) (hshape : e.wellShaped)
    (hnesting : e.nesting ≤ levels) (hnumbers : ∀ x ∈ e.numbers, x.Explicit)
    (h : e.value settings = .ok v) : ∃ rows,
      ((e.summands false).map signedTerm).foldlM (addRow settings levels (2 * levels)) [] =
        .ok rows ∧ Totals settings e v rows := by
  obtain ⟨text, htext⟩ := exists_plainPrint hshape
  obtain ⟨total, htotal, htwin⟩ := (explicit_of_value hnumbers h).zero_add
  have htotal : (lastTotal []).add v = .ok total := htotal
  obtain ⟨row, hrow, -, rfl⟩ := exists_addRow hnesting h htotal htext
  refine ⟨[row], ?_, htwin, row, [], rfl, ?_⟩
  · rw [summands_of_not_isSum hsum, List.map_singleton, List.foldlM_cons]
    change addRow settings levels (2 * levels) [] e >>= _ = _
    rw [hrow]
    rfl
  · rw [sums_of_not_isSum hsum]
    exact .nil

/-- **The rows of a tree that was read.** Each total is the partial sum on the spine that joins its
term, but for the sign of a zero. -/
theorem exists_totals (hshape : e.wellShaped) (hnesting : e.nesting ≤ levels)
    (hnumbers : ∀ x ∈ e.numbers, x.Explicit) (h : e.value settings = .ok v) : ∃ rows,
      ((e.summands false).map signedTerm).foldlM (addRow settings levels (2 * levels)) [] =
        .ok rows ∧ Totals settings e v rows := by
  induction e generalizing v with
  | binary symbol left right span ihl _ =>
    cases hsum : Operator.isAdditive symbol with
    | false => exact exists_totals_of_not_isSum hsum hshape hnesting hnumbers h
    | true =>
      obtain ⟨a, b, operator, ha, hb, hoperator, hrun⟩ := value_binary_eq_ok h
      obtain ⟨⟨-, hfits⟩, hleft, hright⟩ := (wellShaped_binary_iff hoperator).1 hshape
      obtain ⟨hlevelsL, hlevelsR⟩ := Nat.max_le.1 hnesting
      obtain ⟨rows, hfold, htwin, first, rest, rfl, hrest⟩ := ihl hleft hlevelsL
        (fun x hx => hnumbers x (List.mem_append_left _ hx)) ha
      obtain ⟨x, total, hx, htotal, htwin⟩ := exists_total hsum hoperator hrun htwin hb
      obtain ⟨text, htext⟩ := exists_plainPrint_signedTerm hright (symbol == "-")
      obtain ⟨row, hrow, hterm, rfl⟩ := exists_addRow
        ((nesting_signedTerm_le (right, symbol == "-")).trans hlevelsR) hx htotal htext
      refine ⟨row :: (rest ++ [first]), ?_, htwin, first, row :: rest, rfl, ?_⟩
      · rw [summands, if_pos hsum, summands_of_not_isSum (isSum_of_atLeast hsum hoperator hfits),
          Bool.false_bne, List.map_append, List.foldlM_append, hfold, List.map_singleton]
        change [signedTerm (right, symbol == "-")].foldlM (addRow settings levels (2 * levels))
          (rest ++ [first]) = _
        rw [List.foldlM_cons, hrow]
        rfl
      · rw [sums, if_pos hsum, List.reverse_cons]
        exact List.rel_append hrest
          (.cons ⟨⟨_, _, _, _, rfl, hterm⟩, v, h, htwin.toRat_eq.symm⟩ .nil)
  | missing => cases hshape
  | _ => exact exists_totals_of_not_isSum rfl hshape hnesting hnumbers h

end Totals

/-- The numbers of a tree are those of tokens. -/
theorem Derives.exists_of_mem_numbers {tokens : List Token} {e : Expr} (h : Derives tokens e) :
    ∀ x ∈ e.numbers, ∃ token ∈ tokens, token.kind = .number x := by
  induction h with
  | @number token value hkind =>
    intro x hx
    rw [List.mem_singleton.1 hx]
    exact ⟨token, List.mem_singleton_self _, hkind⟩
  | group _ _ _ ih =>
    intro x hx
    obtain ⟨token, htoken, hkind⟩ := ih x hx
    exact ⟨token, List.mem_cons_of_mem _ (List.mem_append_left _ htoken), hkind⟩
  | unary _ _ _ _ ih =>
    intro x hx
    obtain ⟨token, htoken, hkind⟩ := ih x hx
    exact ⟨token, List.mem_cons_of_mem _ htoken, hkind⟩
  | binary _ _ _ _ _ _ ihl ihr =>
    intro x hx
    rcases List.mem_append.1 hx with hx | hx
    · obtain ⟨token, htoken, hkind⟩ := ihl x hx
      exact ⟨token, List.mem_append_left _ htoken, hkind⟩
    · obtain ⟨token, htoken, hkind⟩ := ihr x hx
      exact ⟨token, List.mem_append_right _ (List.mem_cons_of_mem _ htoken), hkind⟩

/-- The numbers of a text are explicit. -/
theorem explicit_of_ofText {source : String} {e : Expr} (h : ofText source levels = .ok e) :
    ∀ x ∈ e.numbers, x.Explicit := by
  intro x hx
  obtain ⟨tokens, hscans, hderives, -⟩ := ofText_eq_ok_iff.1 h
  obtain ⟨token, htoken, hkind⟩ := hderives.exists_of_mem_numbers x hx
  obtain ⟨hrange, -, -, hexponent⟩ := hscans.number htoken hkind
  obtain ⟨hlow, hwidth, -⟩ := (Decimal.inRange_iff x).1 hrange
  exact ⟨hlow, hexponent, hwidth⟩

/-- **Running totals end at the value.** In any tree of decimals within the range that has a value
and a summary, the last total is numerically the value, with the same text. A tree that was read has
a summary if it has a value, and from the second row on each total is numerically the result that
was recorded for the sum or difference on the spine that joins the term of the row. -/
theorem running_totals :
    (∀ {settings : Settings} {e : Expr} {v : Decimal} {steps : List Step} {rows : List TermRow},
      (∀ x ∈ e.numbers, x.inRange) → e.evaluate settings = .ok (v, steps) →
        e.summarize settings = .ok rows → ∃ row, rows.getLast? = some row ∧
          row.total.toRat = v.toRat ∧ row.total.display = v.display) ∧
    ∀ {settings : Settings} {source : String} {e : Expr} {v : Decimal} {steps : List Step},
      ofText source = .ok e → e.evaluate settings = .ok (v, steps) →
        ∃ first rest, e.summarize settings = .ok (first :: rest) ∧
          List.Forall₂ (fun node row => Joins node row ∧ (∃ step ∈ steps, step.node = node) ∧
            ∀ step ∈ steps, step.node = node → step.result.toRat = row.total.toRat)
          e.sums rest := by
  refine ⟨fun hnumbers h hrows => total_eq_value hnumbers h hrows,
    fun {settings source e v steps} hread h => ?_⟩
  obtain ⟨tokens, -, hderives, -⟩ := ofText_eq_ok_iff.1 hread
  obtain ⟨hnesting, hvalue, hnodes, hrecords⟩ := evaluate_eq_ok h
  obtain ⟨rows, hfold, -, first, rest, rfl, hrest⟩ :=
    exists_totals hderives.wellShaped hnesting (explicit_of_ofText hread) hvalue
  refine ⟨first, rest.reverse, ?_, ?_⟩
  · rw [summarize_eq hderives.wellShaped]
    rw [printingLimit, hfold, ← List.reverse_concat]
    rfl
  · have hmem : ∀ node ∈ e.sums, ∃ step ∈ steps, step.node = node := fun node hnode => by
      rw [← List.mem_map, hnodes]
      exact mem_operations_of_mem_sums hnode
    refine ((List.forall₂_and_left _ _).2 ⟨hmem, hrest⟩).imp ?_
    rintro node row ⟨hstep, hjoins, w, hw, htotal⟩
    refine ⟨hjoins, hstep, fun step hmem hnode => ?_⟩
    have hresult := (hrecords step hmem).value_node
    rw [hnode, hw] at hresult
    rw [← Except.ok.inj hresult, htotal]

/-- The totals of `1 - 2 + 1` are one, minus one and zero. -/
theorem running_totals_difference :
    let two : Decimal := ⟨false, 2, 0⟩
    let minusOne : Decimal := ⟨true, 1, 0⟩
    let one₁ := number .one "1" ⟨0, 1⟩
    let two₂ := number two "2" ⟨4, 5⟩
    let one₃ := number .one "1" ⟨8, 9⟩
    let difference := binary "-" one₁ two₂ ⟨0, 5⟩
    let e := binary "+" difference one₃ ⟨0, 9⟩
    ofText "1 - 2 + 1" = .ok e ∧
      e.evaluate {} = .ok (.zero, [.binary "-" one₁ two₂ ⟨0, 5⟩ .one two minusOne,
        .binary "+" difference one₃ ⟨0, 9⟩ minusOne .one .zero]) ∧
      ∃ first second third, e.summarize {} = .ok [first, second, third] ∧
        second.total.toRat = minusOne.toRat ∧ third.total.toRat = 0 ∧
        third.total.display = Decimal.zero.display := by
  intro two minusOne one₁ two₂ one₃ difference e
  have hread : ofText "1 - 2 + 1" = .ok e := by decide +kernel
  have hvalue : e.evaluate {} = .ok (.zero, [.binary "-" one₁ two₂ ⟨0, 5⟩ .one two minusOne,
      .binary "+" difference one₃ ⟨0, 9⟩ minusOne .one .zero]) := by decide +kernel
  obtain ⟨hlast, hrows⟩ := running_totals
  obtain ⟨first, rest, hsummary, hrest⟩ := hrows hread hvalue
  obtain ⟨second, behind, hsecond, hbehind, rfl⟩ := List.forall₂_cons_left_iff.1
    (show List.Forall₂ _ [difference, e] rest from hrest)
  obtain ⟨third, ending, -, hending, rfl⟩ := List.forall₂_cons_left_iff.1 hbehind
  obtain rfl := List.forall₂_nil_left_iff.1 hending
  obtain ⟨row, hrow, htotal, hdisplay⟩ := hlast (show ∀ x ∈ e.numbers, x.inRange by decide) hvalue
    hsummary
  obtain rfl : third = row := Option.some.inj hrow
  exact ⟨hread, hvalue, first, second, third, hsummary,
    (hsecond.2.2 _ (List.mem_cons_self ..) rfl).symm, htotal.trans Decimal.toRat_zero, hdisplay⟩

end Expr
end Reckoner
