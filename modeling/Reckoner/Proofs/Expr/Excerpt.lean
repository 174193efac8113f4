/-
# Excerpts

The characters in the span of a node are the text of that node: read alone, they give it back, moved
to the start (`ofText_excerpt`). Two things are behind this. The tokens of a node stand together in
those of the text (`Derives.exists_of_mem_nodes`), and the text may be cut before the first of them
and behind the last (`Token.Scans.excerpt`), which are the ends of the node's span
(`Derives.exists_ends`).
-/

import Reckoner.Proofs.Expr.Shape

namespace Reckoner

/-- The characters of a text that a span holds. -/
def Span.excerpt (source : String) (span : Span) : String :=
  String.ofList ((source.toList.drop span.start.toNat).take (span.stop - span.start).toNat)

/-- Moving spans moves what they cover. -/
theorem Span.cover_move (k : ℤ) (a b : Span) :
    (a.move k).cover (b.move k) = (a.cover b).move k := by
  simp only [Span.cover, Span.move, Span.mk.injEq]
  omega

/-- Spans in order cover what is from the start of the first to the end of the second. -/
theorem Span.cover_of_le {a b : Span} (hstart : a.start ≤ b.start) (hstop : a.stop ≤ b.stop) :
    a.cover b = ⟨a.start, b.stop⟩ := by
  rw [Span.cover, min_eq_left hstart, max_eq_right hstop]

/-- Tokens in order, cut in two. -/
theorem Token.inOrder_append_iff {before after : List Token} :
    Token.InOrder (before ++ after) ↔ Token.InOrder before ∧ Token.InOrder after ∧
      ∀ a ∈ before, ∀ b ∈ after, a.span.stop ≤ b.span.start := by
  constructor
  · rintro ⟨hnonempty, hapart⟩
    obtain ⟨hbefore, hafter, hcut⟩ := List.pairwise_append.1 hapart
    exact ⟨⟨fun t ht => hnonempty t (List.mem_append_left _ ht), hbefore⟩,
      ⟨fun t ht => hnonempty t (List.mem_append_right _ ht), hafter⟩, hcut⟩
  · rintro ⟨hbefore, hafter, hcut⟩
    refine ⟨fun t ht => ?_, List.pairwise_append.2 ⟨hbefore.apart, hafter.apart, hcut⟩⟩
    rcases List.mem_append.1 ht with ht | ht
    · exact hbefore.nonempty t ht
    · exact hafter.nonempty t ht

/-- Tokens are in order if the first one is in front of the others, which are in order. -/
theorem Token.inOrder_cons_iff {token : Token} {tokens : List Token} :
    Token.InOrder (token :: tokens) ↔ token.span.start < token.span.stop ∧
      Token.InOrder tokens ∧ ∀ b ∈ tokens, token.span.stop ≤ b.span.start := by
  constructor
  · rintro ⟨hnonempty, hapart⟩
    obtain ⟨hcut, hrest⟩ := List.pairwise_cons.1 hapart
    exact ⟨hnonempty token (List.mem_cons_self ..),
      ⟨fun t ht => hnonempty t (List.mem_cons_of_mem _ ht), hrest⟩, hcut⟩
  · rintro ⟨htoken, hrest, hcut⟩
    exact ⟨List.forall_mem_cons.2 ⟨htoken, hrest.nonempty⟩,
      List.pairwise_cons.2 ⟨hcut, hrest.apart⟩⟩

/-- **A text may be cut at the ends of any of its tokens.** -/
theorem Token.Scans.excerpt {source : String} {before used after : List Token}
    (h : Token.Scans 0 source.toList (before ++ used ++ after)) {first last : Token}
    (hfirst : used.head? = some first) (hlast : used.getLast? = some last) :
    0 ≤ first.span.start ∧ last.span.stop ≤ source.length ∧
      Token.Scans 0 (Span.excerpt source ⟨first.span.start, last.span.stop⟩).toList
        (used.map (Token.move (-first.span.start))) := by
  obtain ⟨tail, rfl⟩ := List.head?_eq_some_iff.1 hfirst
  rw [List.append_assoc] at h
  obtain ⟨xs, ys, hsource, hstart, hbehind⟩ := h.skip
  have hbehind : Token.Scans (0 + xs.length) ys ((first :: tail) ++ after) := hbehind
  obtain ⟨us, vs, rfl, hstop, hused⟩ := hbehind.take (List.cons_ne_nil _ _)
  rw [List.getLast?_eq_some_getLast (List.cons_ne_nil _ _), Option.some.injEq] at hlast
  rw [hlast] at hstop
  have hlength : source.length = xs.length + us.length + vs.length := by
    rw [← String.length_toList, hsource, List.length_append, List.length_append, Nat.add_assoc]
  have hmoved := hused.move 0
  rw [Nat.cast_zero, zero_sub, Nat.zero_add] at hmoved
  refine ⟨by omega, by omega, ?_⟩
  rw [Span.excerpt, String.toList_ofList, hsource, hstart, hstop,
    show (((0 : ℕ) : ℤ) + xs.length).toNat = xs.length by omega, List.drop_left,
    show (((0 + xs.length : ℕ) : ℤ) + us.length - (((0 : ℕ) : ℤ) + xs.length)).toNat = us.length by
      omega, List.take_left, show -(((0 : ℕ) : ℤ) + xs.length) = -(xs.length : ℤ) by omega]
  exact hmoved

namespace Expr

/-- The operands of a node. -/
def children : Expr → List Expr
  | missing | number .. => []
  | group inner _ => [inner]
  | unary _ operand _ => [operand]
  | binary _ left right _ => [left, right]

/-- The nodes of a tree. -/
def nodes : Expr → List Expr
  | missing => [missing]
  | number value raw span => [number value raw span]
  | group inner span => group inner span :: inner.nodes
  | unary symbol operand span => unary symbol operand span :: operand.nodes
  | binary symbol left right span => binary symbol left right span :: (left.nodes ++ right.nodes)

/-- A tree further on. -/
def move (k : ℤ) (e : Expr) : Expr := e.mapSpans (Span.move k)

/-- A node has no more levels than the tree. -/
theorem nesting_le_of_mem_nodes {e node : Expr} (h : node ∈ e.nodes) :
    node.nesting ≤ e.nesting := by
  induction e with
  | missing | number => rw [List.mem_singleton.1 h]
  | group inner span ih | unary symbol operand span ih =>
    rcases List.mem_cons.1 h with rfl | h
    · exact le_rfl
    · exact (ih h).trans (Nat.le_succ _)
  | binary symbol left right span ihl ihr =>
    rcases List.mem_cons.1 h with rfl | h
    · exact le_rfl
    · rw [nesting]
      rcases List.mem_append.1 h with h | h
      · exact (ihl h).trans (le_max_left _ _)
      · exact (ihr h).trans ((Nat.le_succ _).trans (le_max_right _ _))

/-- **The tokens of a node stand together.** -/
theorem Derives.exists_of_mem_nodes {tokens : List Token} {e : Expr} (h : Derives tokens e)
    {node : Expr} (hnode : node ∈ e.nodes) :
    ∃ before used after, tokens = before ++ used ++ after ∧ Derives used node := by
  induction h with
  | @number token value hkind =>
    rw [List.mem_singleton.1 hnode]
    exact ⟨[], [token], [], rfl, .number hkind⟩
  | @group opening closing tokens inner hopening hclosing hinner ih =>
    rcases List.mem_cons.1 hnode with rfl | hnode
    · exact ⟨[], _, [], (List.append_nil _).symm, .group hopening hclosing hinner⟩
    · obtain ⟨before, used, after, rfl, hused⟩ := ih hnode
      exact ⟨opening :: before, used, after ++ [closing], by simp, hused⟩
  | @unary token symbol tokens operand hkind hsign hoperand hbinary ih =>
    rcases List.mem_cons.1 hnode with rfl | hnode
    · exact ⟨[], _, [], (List.append_nil _).symm, .unary hkind hsign hoperand hbinary⟩
    · obtain ⟨before, used, after, rfl, hused⟩ := ih hnode
      exact ⟨token :: before, used, after, by simp, hused⟩
  | @binary token symbol operator left right l r hkind hsymbol hl hr hleft hright ihl ihr =>
    rcases List.mem_cons.1 hnode with rfl | hnode
    · exact ⟨[], _, [], (List.append_nil _).symm, .binary hkind hsymbol hl hr hleft hright⟩
    · rcases List.mem_append.1 hnode with hnode | hnode
      · obtain ⟨before, used, after, rfl, hused⟩ := ihl hnode
        exact ⟨before, used, after ++ token :: right, by simp, hused⟩
      · obtain ⟨before, used, after, rfl, hused⟩ := ihr hnode
        exact ⟨left ++ token :: before, used, after, by simp, hused⟩

/-- A node's span goes from the start of its first token to the stop of its last one. -/
theorem Derives.exists_ends {tokens : List Token} {e : Expr} (h : Derives tokens e)
    (horder : Token.InOrder tokens) : ∃ first last, tokens.head? = some first ∧
      tokens.getLast? = some last ∧ e.span = ⟨first.span.start, last.span.stop⟩ ∧
        first.span.start < last.span.stop := by
  induction h with
  | @number token value hkind =>
    exact ⟨token, token, rfl, rfl, rfl, horder.nonempty token (List.mem_singleton_self _)⟩
  | @group opening closing tokens inner hopening hclosing hinner ih =>
    obtain ⟨hopen, -, hcut⟩ := Token.inOrder_cons_iff.1 horder
    have hclose := horder.nonempty closing (by simp)
    have hapart := hcut closing (by simp)
    refine ⟨opening, closing, rfl, ?_, Span.cover_of_le (by omega) (by omega), by omega⟩
    rw [← List.cons_append, List.getLast?_concat]
  | @unary token symbol tokens operand hkind hsign hoperand hbinary ih =>
    obtain ⟨htoken, htail, hcut⟩ := Token.inOrder_cons_iff.1 horder
    obtain ⟨first, last, hfirst, hlast, hspan, hlt⟩ := ih htail
    have hapart := hcut first (List.mem_of_head? hfirst)
    refine ⟨token, last, rfl, ?_, ?_, by omega⟩
    · rw [List.getLast?_cons, hlast]; rfl
    · rw [hspan]
      exact Span.cover_of_le (show _ ≤ first.span.start by omega) (show _ ≤ last.span.stop by omega)
  | @binary token symbol operator before after left right hkind hsymbol hl hr hleft hright ihl
      ihr =>
    obtain ⟨hbefore, hrest, hcut⟩ := Token.inOrder_append_iff.1 horder
    have hafter := (Token.inOrder_cons_iff.1 hrest).2.1
    obtain ⟨first, last, hfirst, hlast, hspan, hlt⟩ := ihl hbefore
    obtain ⟨first', last', hfirst', hlast', hspan', hlt'⟩ := ihr hafter
    have hapart := hcut last (List.mem_of_getLast? hlast) first'
      (List.mem_cons_of_mem _ (List.mem_of_head? hfirst'))
    refine ⟨first, last', ?_, ?_, ?_, by omega⟩
    · rw [List.head?_append, hfirst]; rfl
    · rw [List.getLast?_append, List.getLast?_cons, hlast']; rfl
    · rw [hspan, hspan']
      exact Span.cover_of_le (show first.span.start ≤ first'.span.start by omega)
        (show last.span.stop ≤ last'.span.stop by omega)

/-- The operands of a node lie in it, and those of an operator one behind the other. -/
theorem Derives.children_span {tokens : List Token} {e : Expr} (h : Derives tokens e)
    (horder : Token.InOrder tokens) :
    (∀ child ∈ e.children, e.span.start ≤ child.span.start ∧ child.span.stop ≤ e.span.stop) ∧
      ∀ symbol left right span, e = .binary symbol left right span →
        left.span.stop ≤ right.span.start := by
  cases h with
  | @number token value hkind => exact ⟨fun _ h => absurd h List.not_mem_nil, nofun⟩
  | @group opening closing inside inner hopening hclosing hinner =>
    refine ⟨fun child hchild => ?_, nofun⟩
    obtain ⟨hopen, htail, hcut⟩ := Token.inOrder_cons_iff.1 horder
    obtain ⟨hinside, -, hcut'⟩ := Token.inOrder_append_iff.1 htail
    obtain ⟨first, last, hfirst, hlast, hspan, -⟩ := hinner.exists_ends hinside
    have hclose := horder.nonempty closing (by simp)
    have hbefore := hcut first (List.mem_append_left _ (List.mem_of_head? hfirst))
    have hbehind := hcut' last (List.mem_of_getLast? hlast) closing (List.mem_singleton_self _)
    rw [List.mem_singleton.1 hchild, hspan]
    exact ⟨(min_le_left _ _).trans (show opening.span.start ≤ first.span.start by omega),
      (show last.span.stop ≤ closing.span.stop by omega).trans (le_max_right _ _)⟩
  | @unary token symbol inside operand hkind hsign hoperand hbinary =>
    refine ⟨fun child hchild => ?_, nofun⟩
    rw [List.mem_singleton.1 hchild]
    exact ⟨min_le_right _ _, le_max_right _ _⟩
  | @binary token symbol operator before after left right hkind hsymbol hl hr hleft hright =>
    refine ⟨fun child hchild => ?_, fun _ _ _ _ he => ?_⟩
    · rcases List.mem_pair.1 hchild with rfl | rfl
      · exact ⟨min_le_left _ _, le_max_left _ _⟩
      · exact ⟨min_le_right _ _, le_max_right _ _⟩
    · cases he
      obtain ⟨hbefore, hrest, hcut⟩ := Token.inOrder_append_iff.1 horder
      obtain ⟨_, last, _, hlast, hspan, _⟩ := hl.exists_ends hbefore
      obtain ⟨first, _, hfirst, _, hspan', _⟩ :=
        hr.exists_ends (Token.inOrder_cons_iff.1 hrest).2.1
      rw [hspan, hspan']
      exact hcut last (List.mem_of_getLast? hlast) first
        (List.mem_cons_of_mem _ (List.mem_of_head? hfirst))

/-- Tokens further on write the tree further on. -/
theorem Derives.move {tokens : List Token} {e : Expr} (h : Derives tokens e) (k : ℤ) :
    (e.move k).span = e.span.move k ∧ Derives (tokens.map (Token.move k)) (e.move k) := by
  induction h with
  | number hkind => exact ⟨rfl, .number hkind⟩
  | @group opening closing tokens inner hopening hclosing _ ih =>
    have hgroup := Derives.group (show (opening.move k).kind = .opening from hopening)
      (show (closing.move k).kind = .closing from hclosing) ih.2
    refine ⟨rfl, ?_⟩
    rw [List.map_cons, List.map_append]
    rwa [show (closing.move k).span = closing.span.move k from rfl,
      show (opening.move k).span = opening.span.move k from rfl, Span.cover_move] at hgroup
  | @unary token symbol tokens operand hkind hsign _ hbinary ih =>
    have hunary := Derives.unary (show (token.move k).kind = _ from hkind) hsign ih.2
      ((isBinary_mapSpans _ operand).trans hbinary)
    refine ⟨rfl, ?_⟩
    rwa [ih.1, show (token.move k).span = token.span.move k from rfl, Span.cover_move] at hunary
  | @binary token symbol operator before after left right hkind hsymbol _ _ hleft hright ihl ihr =>
    have hbinary := Derives.binary (show (token.move k).kind = _ from hkind) hsymbol ihl.2 ihr.2
      ((atLeast_mapSpans _ _ left).trans hleft) ((atLeast_mapSpans _ _ right).trans hright)
    refine ⟨rfl, ?_⟩
    rw [List.map_append, List.map_cons]
    rwa [ihl.1, ihr.1, Span.cover_move] at hbinary

/-! ### Texts -/

/-- A text is read as what its tokens write. -/
theorem ofText_eq_ok_iff {source : String} {levels : ℕ} {e : Expr} :
    ofText source levels = .ok e ↔
      ∃ tokens, Token.Scans 0 source.toList tokens ∧ Derives tokens e ∧ e.nesting ≤ levels := by
  rw [ofText, bind_eq_ok_iff]
  constructor
  · rintro ⟨tokens, hscan, hread⟩
    obtain ⟨read, hscans, rfl⟩ := Token.scan_eq_ok_iff.1 (mapError_eq_ok_iff.1 hscan)
    exact ⟨read, hscans,
      (ofTokens_eq_ok_iff rfl hscans.kind_ne_finish).1 (mapError_eq_ok_iff.1 hread)⟩
  · rintro ⟨tokens, hscans, hderives⟩
    exact ⟨_, mapError_eq_ok_iff.2 (Token.scan_eq_ok_iff.2 ⟨tokens, hscans, rfl⟩),
      mapError_eq_ok_iff.2 ((ofTokens_eq_ok_iff rfl hscans.kind_ne_finish).2 hderives)⟩

/-- The tokens of a text decide what it is read as. -/
theorem ofText_of_derives {source : String} {tokens : List Token}
    (hscans : Token.Scans 0 source.toList tokens) {e : Expr} (h : Derives tokens e) :
    ofText source = if e.nesting ≤ nestingLimit then .ok e
      else .error (.parse (.tooDeep ⟨0, source.length⟩)) := by
  have hscan := Token.scan_eq_ok_iff.2 ⟨tokens, hscans, rfl⟩
  rw [ofText, mapError_eq_ok_iff.2 hscan]
  change (ofTokens _).mapError _ = _
  rw [h.ofTokens_eq rfl nestingLimit]
  split_ifs
  · rfl
  · simp [Except.mapError, depthError, Token.place, String.length_toList]

/-- The span of a node is a part of the text, and what is read there alone is the node, moved to the
start. -/
theorem ofText_node {source : String} {e : Expr} (h : ofText source = .ok e) {node : Expr}
    (hnode : node ∈ e.nodes) :
    (0 ≤ node.span.start ∧ node.span.start < node.span.stop ∧ node.span.stop ≤ source.length) ∧
      ofText (node.span.excerpt source) = .ok (node.move (-node.span.start)) := by
  obtain ⟨tokens, hscans, hderives, hnesting⟩ := ofText_eq_ok_iff.1 h
  obtain ⟨before, used, after, rfl, hused⟩ := hderives.exists_of_mem_nodes hnode
  have horder := (Token.inOrder_append_iff.1 (Token.inOrder_append_iff.1 hscans.inOrder.2).1).2.1
  obtain ⟨first, last, hfirst, hlast, hspan, hlt⟩ := hused.exists_ends horder
  obtain ⟨hstart, hstop, hexcerpt⟩ := hscans.excerpt hfirst hlast
  rw [← hspan] at hexcerpt
  have hlevels : (node.move (-node.span.start)).nesting ≤ nestingLimit := by
    rw [move, nesting_mapSpans]
    exact (nesting_le_of_mem_nodes hnode).trans hnesting
  have hread := (hused.move (-node.span.start)).2
  rw [hspan] at hread hexcerpt hlevels ⊢
  exact ⟨⟨hstart, hlt, hstop⟩, ofText_eq_ok_iff.2 ⟨_, hexcerpt, hread, hlevels⟩⟩

/-- **The excerpt of a node's span is that node.** The span of every node of a text that was read is
a part of the text that is not empty, and read alone it gives the node, moved to the start. The
operands of a node lie in it, the left one before the right one. -/
theorem ofText_excerpt {source : String} {e : Expr} (h : ofText source = .ok e) {node : Expr}
    (hnode : node ∈ e.nodes) :
    (0 ≤ node.span.start ∧ node.span.start < node.span.stop ∧ node.span.stop ≤ source.length) ∧
      ofText (node.span.excerpt source) = .ok (node.move (-node.span.start)) ∧
      (∀ child ∈ node.children,
        node.span.start ≤ child.span.start ∧ child.span.stop ≤ node.span.stop) ∧
      ∀ symbol left right span, node = binary symbol left right span →
        left.span.stop ≤ right.span.start := by
  obtain ⟨tokens, hscans, hderives, hnesting⟩ := ofText_eq_ok_iff.1 h
  obtain ⟨before, used, after, rfl, hused⟩ := hderives.exists_of_mem_nodes hnode
  have horder := hscans.inOrder.2
  have horder := (Token.inOrder_append_iff.1 (Token.inOrder_append_iff.1 horder).1).2.1
  obtain ⟨first, last, hfirst, hlast, hspan, hlt⟩ := hused.exists_ends horder
  obtain ⟨hstart, hstop, hexcerpt⟩ := hscans.excerpt hfirst hlast
  refine ⟨?_, ofText_eq_ok_iff.2 ⟨_, ?_, (hused.move (-node.span.start)).2, ?_⟩,
    hused.children_span horder⟩
  · rw [hspan]
    exact ⟨hstart, hlt, hstop⟩
  · rw [hspan]
    exact hexcerpt
  · rw [move, nesting_mapSpans]
    exact (nesting_le_of_mem_nodes hnode).trans hnesting

/-- The difference in `2 * (1 - 1)`, which is read at another strength there than alone. -/
theorem ofText_excerpt_difference :
    let node := binary "-" (number .one "1" ⟨5, 6⟩) (number .one "1" ⟨9, 10⟩) ⟨5, 10⟩
    let e := binary "*" (number ⟨false, 2, 0⟩ "2" ⟨0, 1⟩) (group node ⟨4, 11⟩) ⟨0, 11⟩
    ofText "2 * (1 - 1)" = .ok e ∧ node ∈ e.nodes ∧
      ofText (node.span.excerpt "2 * (1 - 1)") = .ok (node.move (-5)) := by
  intro node e
  have hread : ofText "2 * (1 - 1)" = .ok e := by decide +kernel
  have hnode : node ∈ e.nodes := by decide
  exact ⟨hread, hnode, (ofText_excerpt hread hnode).2.1⟩

end Expr
end Reckoner
