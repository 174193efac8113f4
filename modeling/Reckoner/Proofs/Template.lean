/-
# Values in parentheses

A template is a text with placeholders in it (`Template.Layout`). Filling it in puts the value of a
variable in place of each of its placeholders, wherever they stand (`fillFrom_layout`). If the
values are expressions in parentheses, each acts as one operand: what comes out is read as the tree
of the template with `(0)` for every placeholder, with the trees of the values in place of these
zeros (`fill_parenthesized`).

A text is cut into tokens at parentheses (`Token.Scans.split`), so the tokens of the filled text are
those of the template and of the values, one part after the other.
-/

import Reckoner.Proofs.Expr.Excerpt
import Reckoner.Proofs.Expr.Planting
import Reckoner.Proofs.Placeholders

namespace Reckoner

namespace Template
namespace Layout

/-! ### The trees of the values -/

/-- The trees of the placeholders' variables, by where zeros stand if the text begins at `start` and
`(0)` stands for every placeholder. -/
def treeAt? (trees : String → Expr) (start : ℕ) : Layout → ℤ → Option Expr
  | literal _, _ => none
  | placeholder cs p rest, k =>
    if k = start + cs.length + 1 then some (trees p.name)
    else rest.treeAt? trees (start + cs.length + 3) k

variable {f g : ℤ → Option Expr} {trees : String → Expr}

/-- That `f` has the trees for the zeros of a text that begins at `start`, and none before, between
and behind them. -/
def Fits (f : ℤ → Option Expr) (trees : String → Expr) (start : ℕ) : Layout → Prop
  | literal _ => ∀ k : ℤ, start ≤ k → f k = none
  | placeholder cs p rest => (∀ k : ℤ, start ≤ k → k ≤ start + cs.length → f k = none) ∧
      f (start + cs.length + 1) = some (trees p.name) ∧ rest.Fits f trees (start + cs.length + 3)

/-- No tree is placed before the start. -/
theorem treeAt?_of_lt {layout : Layout} {start : ℕ} {k : ℤ} (h : k < start) :
    layout.treeAt? trees start k = none := by
  induction layout generalizing start with
  | literal => rfl
  | placeholder cs p rest ih =>
    rw [treeAt?, if_neg (by omega)]
    exact ih (by push_cast; omega)

/-- Only the trees behind the start matter. -/
theorem Fits.congr {layout : Layout} {start : ℕ} (h : layout.Fits f trees start)
    (hfg : ∀ k : ℤ, start ≤ k → f k = g k) : layout.Fits g trees start := by
  induction layout generalizing start with
  | literal cs => exact fun k hk => (hfg k hk).symm.trans (h k hk)
  | placeholder cs p rest ih =>
    obtain ⟨hbefore, hzero, hrest⟩ := h
    exact ⟨fun k hstart hstop => (hfg k hstart).symm.trans (hbefore k hstart hstop),
      (hfg _ (by omega)).symm.trans hzero,
      ih hrest fun k hk => hfg k (by push_cast at hk; omega)⟩

/-- The trees at the places of a layout fit it. -/
theorem fits_treeAt? (layout : Layout) (trees : String → Expr) (start : ℕ) :
    layout.Fits (layout.treeAt? trees start) trees start := by
  induction layout generalizing start with
  | literal => exact fun _ _ => rfl
  | placeholder cs p rest ih =>
    refine ⟨fun k _ hstop => ?_, if_pos rfl, (ih _).congr fun k hk => ?_⟩
    · rw [treeAt?, if_neg (by omega)]
      exact treeAt?_of_lt (by push_cast; omega)
    · rw [treeAt?, if_neg (by push_cast at hk; omega)]

/-- What is placed is well-shaped, if the trees are. -/
theorem wellShaped_of_treeAt? {layout : Layout}
    (htrees : ∀ p ∈ layout.placeholders, (trees p.name).wellShaped) {start : ℕ} {k : ℤ} {d : Expr}
    (h : layout.treeAt? trees start k = some d) : d.wellShaped := by
  induction layout generalizing start with
  | literal => cases h
  | placeholder cs p rest ih =>
    obtain ⟨hp, hrest⟩ := List.forall_mem_cons.1 htrees
    rw [treeAt?] at h
    split_ifs at h
    · cases h
      exact hp
    · exact ih hrest h

/-- The digit zero is the number zero. -/
theorem lexeme_zero : Token.Lexeme (.number .zero) ['0'] :=
  .literal (by decide) rfl rfl

/-- What a text is read as in which `(0)` stands for every placeholder, and what is read where
values in parentheses stand there. -/
theorem scans {layout : Layout} {texts : String → String}
    (htexts : ∀ p ∈ layout.placeholders, Expr.ofText (texts p.name) = .ok (trees p.name))
    {start : ℕ} (hfits : layout.Fits f trees start) {tokens : List Token}
    (h : Token.Scans start (layout.render fun _ => ['(', '0', ')']) tokens) :
    Token.Alone f tokens ∧ (∀ token ∈ tokens.head?, token.slot? f = none) ∧
      ∀ start', ∃ filled,
        Token.Scans start' (layout.render fun p => '(' :: (texts p.name).toList ++ [')']) filled ∧
          filled.map Token.content = tokens.flatMap (Token.planted f) := by
  induction layout generalizing start tokens with
  | literal cs =>
    have hnone : ∀ token ∈ tokens, token.slot? f = none := fun token htoken =>
      Token.slot?_eq_none (hfits _ (h.inOrder.1 token htoken).1)
    refine ⟨Token.alone_of_none hnone, fun token htoken => hnone token (List.mem_of_head? htoken),
      fun start' => ⟨_, h.move start', ?_⟩⟩
    rw [Token.flatMap_planted hnone, Token.map_content_move]
  | placeholder cs p rest ih =>
    obtain ⟨hbefore, hzero, hrest⟩ := hfits
    obtain ⟨hp, hplaceholders⟩ := List.forall_mem_cons.1 htexts
    obtain ⟨before, inside, after, hcs, hinside, hafter, rfl⟩ :=
      (@Token.scans_parentheses_iff start cs ['0'] _ tokens).1 h
    obtain ⟨halone, hhead, hfill⟩ := ih hplaceholders hrest hafter
    obtain rfl := hinside.unique (lexeme_zero.scans _)
    have hnone : ∀ token ∈ before, token.slot? f = none := fun token htoken => by
      have hin := hcs.inOrder.1 token htoken
      have hlt := hcs.inOrder.2.nonempty token htoken
      exact Token.slot?_eq_none (hbefore _ (by omega) (by omega))
    refine ⟨halone.enclose hnone rfl rfl hhead _, fun token htoken => ?_, fun start' => ?_⟩
    · cases before with
      | nil => exact Option.some.inj htoken ▸ rfl
      | cons b before => exact Option.some.inj htoken ▸ hnone b List.mem_cons_self
    · obtain ⟨value, hvalue, hderives, -⟩ := Expr.ofText_eq_ok_iff.1 hp
      obtain ⟨filled, hfilled, hcontents⟩ := hfill _
      have hall := Token.scans_parentheses_iff.2
        ⟨_, _, _, hcs.move start', hvalue.move (start' + cs.length + 1), hfilled, rfl⟩
      have hslot : (Token.place (.number .zero) ['0'] (start + cs.length + 1)).slot? f =
          some (trees p.name) := by
        rw [← hzero]
        exact congrArg f (by simp [Token.place])
      refine ⟨_, by simpa [render] using hall, ?_⟩
      rw [List.map_append, List.map_cons, List.map_append, List.map_cons, hcontents,
        Token.map_content_move, Token.map_content_move, hderives.map_content, List.flatMap_append,
        Token.flatMap_planted hnone, List.flatMap_cons, List.flatMap_append, List.flatMap_singleton,
        List.flatMap_cons, Token.planted_of_opening rfl, Token.planted_of_some hslot,
        Token.planted_of_closing rfl]
      rfl

/-- No braces stand between the placeholders of a text that is read with `(0)` for each of them. -/
theorem not_mem_literals {layout : Layout} {start : ℕ} {tokens : List Token}
    (h : Token.Scans start (layout.render fun _ => ['(', '0', ')']) tokens) :
    ∀ cs ∈ layout.literals, '\x7b' ∉ cs := by
  intro cs hcs hbrace
  have hmem : '\x7b' ∈ layout.render fun _ => ['(', '0', ')'] := by
    clear h
    induction layout with
    | literal => exact List.mem_singleton.1 hcs ▸ hbrace
    | placeholder _ p rest ih =>
      obtain rfl | hcs := List.mem_cons.1 hcs
      · exact List.mem_append_left _ hbrace
      · exact List.mem_append_right _ (List.mem_append_right _ (ih hcs))
  have key : ¬(Text.isBlank '\x7b' ∨ '\x7b' ∈ Token.symbolChars ∨ '\x7b' = '.' ∨
      Token.isLiteralPart '\x7b') := by decide
  exact key (h.mem_cases hmem)

end Layout

/-- **Values in parentheses act as operands.** Let `(e)` be the value of every variable of a
template, for a text `e` that is read as a tree, and let the template be read as `t` with `(0)` for
every placeholder. Then the template can be filled in, and what comes out is read as `t` with the
trees of the values for these zeros, unless that has too many levels. -/
theorem fill_parenthesized {bindings : Bindings} {layout : Layout} {texts : String → String}
    {trees : String → Expr}
    (hvalues : ∀ p ∈ layout.placeholders,
      bindings.find? p.name = some ("(" ++ texts p.name ++ ")") ∧
        Expr.ofText (texts p.name) = .ok (trees p.name)) {t : Expr}
    (hzeros : Expr.ofText (String.ofList (layout.render fun _ => ['(', '0', ')'])) = .ok t) :
    ∃ filled, fill bindings (String.ofList (layout.render Placeholder.text)) = .ok filled ∧
      (let planted := t.plant (layout.treeAt? trees 0)
      (planted.nesting ≤ Expr.nestingLimit →
        ∃ read, Expr.ofText filled = .ok read ∧ read.unplaced = planted.unplaced) ∧
      (Expr.nestingLimit < planted.nesting →
        ∃ span, Expr.ofText filled = .error (.parse (.tooDeep span)))) := by
  obtain ⟨tokens, hscans, hderives, -⟩ := Expr.ofText_eq_ok_iff.1 hzeros
  rw [String.toList_ofList] at hscans
  have htexts := fun p hp => (hvalues p hp).2
  have hshapes : ∀ p ∈ layout.placeholders, (trees p.name).wellShaped := fun p hp => by
    obtain ⟨_, -, h, -⟩ := Expr.ofText_eq_ok_iff.1 (htexts p hp)
    exact h.wellShaped
  obtain ⟨halone, hhead, hfilled⟩ := Layout.scans htexts (layout.fits_treeAt? trees 0) hscans
  obtain ⟨filled, hfilled, hcontents⟩ := hfilled 0
  -- The tree with the trees of the values lists the tokens of the filled text.
  have hslot := hderives.isSlot_eq_false fun token htokens => hhead token (htokens ▸ rfl)
  obtain ⟨hshaped, hyield⟩ :=
    hderives.plant (fun k d hk => Layout.wellShaped_of_treeAt? hshapes hk) halone hslot
  obtain ⟨read, hread, hsame⟩ := Expr.exists_derives hshaped (hcontents.trans hyield.symm)
  have hvalue (p : Placeholder) :
      ("(" ++ texts p.name ++ ")").toList = '(' :: (texts p.name).toList ++ [')'] := by simp
  have hfill := fillFrom_layout (fun p hp => (hvalues p hp).1)
    (Layout.not_mem_literals hscans) []
  simp only [hvalue] at hfill
  have hfill : fill bindings (String.ofList (layout.render Placeholder.text)) =
      .ok (String.ofList (layout.render fun p => '(' :: (texts p.name).toList ++ [')'])) := by
    rw [fill, String.toList_ofList, hfill]
    rfl
  have htext := Expr.ofText_of_derives (by rwa [String.toList_ofList]) hread
  rw [Expr.nesting_eq_of_unplaced_eq hsame] at htext
  exact ⟨_, hfill, fun hnesting => ⟨read, htext.trans (if_pos hnesting), hsame⟩,
    fun hnesting => ⟨_, htext.trans (if_neg (Nat.not_le.2 hnesting))⟩⟩

/-- A difference that is the base of a power, and is subtracted. -/
theorem fill_parenthesized_difference :
    let number (n : ℕ) : Expr := .number ⟨false, n, 0⟩ (Digits.toText n) .none
    let x : Expr := .group (.binary "-" (number 1) (number 3) .none) .none
    let y : Expr := .group (number 2) .none
    ∃ filled read,
      fill [("x", "(1 - 3)"), ("y", "(2)")]
        "2 * \x7b\x7b x \x7d\x7d ^ \x7b\x7by\x7d\x7d - \x7b\x7bx\x7d\x7d" = .ok filled ∧
      Expr.ofText filled = .ok read ∧
      read.unplaced =
        .binary "-" (.binary "*" (number 2) (.binary "^" x y .none) .none) x .none := by
  intro number x y
  let spaced : Placeholder :=
    ⟨[' '], 'x', [], [' '], List.all_eq_true.1 rfl, rfl, nofun, List.all_eq_true.1 rfl⟩
  let plain : Placeholder := ⟨[], 'x', [], [], nofun, rfl, nofun, nofun⟩
  let other : Placeholder := ⟨[], 'y', [], [], nofun, rfl, nofun, nofun⟩
  let layout : Layout := .placeholder "2 * ".toList spaced (.placeholder " ^ ".toList other
    (.placeholder " - ".toList plain (.literal [])))
  let texts (name : String) : String := if name = "x" then "1 - 3" else "2"
  let trees (name : String) : Expr :=
    if name = "x" then
      .binary "-" (.number .one "1" ⟨0, 1⟩) (.number ⟨false, 3, 0⟩ "3" ⟨4, 5⟩) ⟨0, 5⟩
    else .number ⟨false, 2, 0⟩ "2" ⟨0, 1⟩
  let zero (k : ℤ) : Expr := .group (.number .zero "0" ⟨k + 1, k + 2⟩) ⟨k, k + 3⟩
  have hzeros : Expr.ofText (String.ofList (layout.render fun _ => ['(', '0', ')'])) =
      .ok (.binary "-" (.binary "*" (.number ⟨false, 2, 0⟩ "2" ⟨0, 1⟩)
        (.binary "^" (zero 4) (zero 10) ⟨4, 13⟩) ⟨0, 13⟩) (zero 16) ⟨0, 19⟩) := by decide +kernel
  obtain ⟨filled, hfill, hread, -⟩ := @fill_parenthesized
    [("x", "(1 - 3)"), ("y", "(2)")] layout texts trees (by decide +kernel) _ hzeros
  obtain ⟨read, hread, hsame⟩ := hread (by decide +kernel)
  refine ⟨filled, read, ?_, hread, hsame.trans (by decide +kernel)⟩
  exact hfill

end Template
end Reckoner
