/-
# Where a report points

An offset is on one line and in one column (`Position.ofOffset_eq_iff`), and a later offset is
further down or further right. A report shows the line of its start and underlines its span there
(`render_underlines`), with as many carets as there are characters of the span on that line, one at
least.

The text up to an offset is ended lines and a front without a line feed (`Front`). From there the
position is read off, and the line that is shown begins with the front.
-/

import Reckoner.Proofs.Diagnostics
import Reckoner.Proofs.Text

namespace Reckoner

/-! ### The text up to an offset -/

/-- A text cut into ended lines and what stands behind them on the last line. -/
structure Front (pre : List Char) (before : List (List Char)) (front : List Char) : Prop where
  eq : pre = before.flatMap (· ++ ['\n']) ++ front
  not_mem_lines : ∀ l ∈ before, '\n' ∉ l
  not_mem_front : '\n' ∉ front

namespace Front

variable {pre xs front : List Char} {before : List (List Char)}

/-- Every text is cut into ended lines and what stands behind them. -/
theorem exists_front (pre : List Char) : ∃ before front, Front pre before front := by
  induction pre using List.reverseRecOn with
  | nil => exact ⟨[], [], rfl, nofun, nofun⟩
  | append_singleton cs c ih =>
    obtain ⟨before, front, rfl, hlines, hfront⟩ := ih
    by_cases hc : c = '\n'
    · refine ⟨before ++ [front], [], ?_, ?_, nofun⟩
      · simp [hc]
      · exact List.forall_mem_append.2 ⟨hlines, List.forall_mem_singleton.2 hfront⟩
    · refine ⟨before, front ++ [c], by simp, hlines, ?_⟩
      simpa [hfront] using Ne.symm hc

/-- Characters that are no line feeds stand on the last line. -/
theorem append (h : Front pre before front) (hxs : '\n' ∉ xs) :
    Front (pre ++ xs) before (front ++ xs) :=
  ⟨by rw [h.eq, List.append_assoc], h.not_mem_lines, by simp [h.not_mem_front, hxs]⟩

/-- There are as many line feeds as ended lines. -/
theorem count (h : Front pre before front) : pre.count '\n' = before.length := by
  obtain ⟨rfl, hlines, hfront⟩ := h
  rw [List.count_append, List.count_eq_zero.2 hfront, Nat.add_zero]
  induction before with
  | nil => rfl
  | cons l before ih =>
    obtain ⟨hl, hlines⟩ := List.forall_mem_cons.1 hlines
    rw [List.flatMap_cons, List.count_append, ih hlines, List.count_append,
      List.count_eq_zero.2 hl]
    simp [Nat.add_comm]

/-- Back to the line feed before it, a text is its last line. -/
theorem takeWhile_reverse (h : Front pre before front) :
    pre.reverse.takeWhile (· != '\n') = front.reverse := by
  rw [h.eq, List.reverse_append]
  refine (Text.run_append (fun c hc => ?_) fun c hc => ?_).1
  · exact bne_iff_ne.2 fun hfeed => h.not_mem_front (hfeed ▸ List.mem_reverse.1 hc)
  · obtain rfl | ⟨init, last, rfl⟩ := List.eq_nil_or_concat before
    · cases hc
    · rw [List.concat_eq_append, List.flatMap_append, List.flatMap_singleton, List.reverse_append,
        List.reverse_concat] at hc
      cases hc
      rfl

/-- A text is as long as its lines with their line feeds. -/
theorem length (h : Front pre before front) :
    pre.length = (before.map fun l => l.length + 1).sum + front.length := by
  rw [h.eq, List.length_append, List.length_flatMap]
  simp

/-- The first line of a text. -/
theorem exists_splitOn {front : List Char} (hfront : '\n' ∉ front) (xs : List Char) :
    ∃ after, (front ++ xs).splitOn '\n' = (front ++ xs.takeWhile (· != '\n')) :: after := by
  have hline : '\n' ∉ front ++ xs.takeWhile (· != '\n') := by
    rw [List.mem_append, not_or]
    exact ⟨hfront, fun h => absurd (List.mem_takeWhile_imp h) (by decide)⟩
  have hcut : front ++ xs =
      (front ++ xs.takeWhile (· != '\n')) ++ xs.dropWhile (· != '\n') := by
    rw [List.append_assoc, List.takeWhile_append_dropWhile]
  rw [hcut]
  cases hrest : xs.dropWhile (· != '\n') with
  | nil => exact ⟨[], by rw [List.append_nil, List.splitOn_eq_singleton hline]⟩
  | cons c rest =>
    have hc := Text.head?_dropWhile (f := (· != '\n')) xs c (by rw [hrest]; rfl)
    obtain rfl : c = '\n' := by simpa using hc
    exact ⟨rest.splitOn '\n', List.splitOn_append_cons_self_of_not_mem hline rest⟩

/-- The lines of a text by what stands in front of an offset. -/
theorem splitOn (h : Front pre before front) (xs : List Char) :
    ∃ after, (pre ++ xs).splitOn '\n' =
      before ++ (front ++ xs.takeWhile (· != '\n')) :: after := by
  obtain ⟨after, hafter⟩ := exists_splitOn h.not_mem_front xs
  refine ⟨after, ?_⟩
  rw [h.eq, List.append_assoc, ← hafter]
  have hlines := h.not_mem_lines
  clear h hafter
  induction before with
  | nil => rfl
  | cons l before ih =>
    obtain ⟨hl, hlines⟩ := List.forall_mem_cons.1 hlines
    rw [List.flatMap_cons, List.append_assoc, List.append_assoc, List.singleton_append,
      List.splitOn_append_cons_self_of_not_mem hl, ih hlines, List.cons_append]

end Front

/-! ### Positions -/

namespace Position

/-- That a position is that of the offset `k`: so many characters are in the lines before its line,
the line feeds included, and before its column. -/
def Locates (p : Position) (source : List Char) (k : ℕ) : Prop :=
  ∃ before line after, source.splitOn '\n' = before ++ line :: after ∧ p.line = before.length + 1 ∧
    1 ≤ p.column ∧ p.column ≤ line.length + 1 ∧
      k = (before.map fun l => l.length + 1).sum + (p.column - 1)

variable {source : List Char} {p q : Position} {i j : ℕ}

/-- The line is counted by the ended lines in front, the column by what stands behind them. -/
theorem ofOffset_eq {offset : ℤ} {before : List (List Char)} {front : List Char}
    (h : Front (source.take (clamp source.length offset)) before front) :
    ofOffset source offset = ⟨before.length + 1, front.length + 1⟩ := by
  simp only [ofOffset, h.count, h.takeWhile_reverse, List.length_reverse]

/-- **The position of an offset is where it is**, or the nearest end of the text. -/
theorem locates_ofOffset (source : List Char) (offset : ℤ) :
    (ofOffset source offset).Locates source (clamp source.length offset) := by
  obtain ⟨before, front, hfront⟩ := Front.exists_front (source.take (clamp source.length offset))
  obtain ⟨after, hlines⟩ := hfront.splitOn (source.drop (clamp source.length offset))
  have hlength := hfront.length
  rw [List.length_take, min_eq_left (clamp_le _ _)] at hlength
  rw [List.take_append_drop] at hlines
  rw [ofOffset_eq hfront]
  refine ⟨before, _, after, hlines, rfl, Nat.le_add_left _ _, ?_, hlength⟩
  rw [List.length_append]
  exact Nat.add_le_add_right (Nat.le_add_right _ _) 1

/-- A position further down is that of a later offset. -/
theorem Locates.lt_of_line_lt (hp : p.Locates source i) (hq : q.Locates source j)
    (h : p.line < q.line) : i < j := by
  obtain ⟨before, line, after, hlines, hline, -, hcolumn, rfl⟩ := hp
  obtain ⟨before', line', after', hlines', hline', -, -, rfl⟩ := hq
  obtain ⟨between, rfl, hbetween⟩ | ⟨between, rfl, -⟩ :=
    List.append_eq_append_iff.1 (hlines.symm.trans hlines')
  · cases between with
    | nil =>
      rw [List.append_nil] at hline'
      omega
    | cons first between =>
      obtain ⟨rfl, -⟩ := List.cons.inj hbetween
      rw [List.map_append, List.sum_append, List.map_cons, List.sum_cons]
      omega
  · rw [List.length_append] at hline
    omega

/-- On one line the columns are as far apart as the offsets. -/
theorem Locates.add_column (hp : p.Locates source i) (hq : q.Locates source j)
    (h : p.line = q.line) : i + q.column = j + p.column := by
  obtain ⟨before, line, after, hlines, hline, hcolumn, -, rfl⟩ := hp
  obtain ⟨before', line', after', hlines', hline', hcolumn', -, rfl⟩ := hq
  obtain ⟨rfl, -⟩ := List.append_inj (hlines.symm.trans hlines') (by omega)
  omega

/-- A later offset is on a later line, or further on the same one. -/
theorem Locates.lex_of_lt (hp : p.Locates source i) (hq : q.Locates source j) (h : i < j) :
    p.line < q.line ∨ p.line = q.line ∧ p.column < q.column := by
  obtain hlt | heq | hgt := Nat.lt_trichotomy p.line q.line
  · exact .inl hlt
  · have := hp.add_column hq heq
    exact .inr ⟨heq, by omega⟩
  · have := hq.lt_of_line_lt hp hgt
    omega

/-- An offset has one position. -/
theorem Locates.unique (hp : p.Locates source i) (hq : q.Locates source i) : p = q := by
  have hline : p.line = q.line := by
    by_contra hne
    obtain hlt | hgt := Nat.lt_or_gt_of_ne hne
    · exact (hp.lt_of_line_lt hq hlt).false
    · exact (hq.lt_of_line_lt hp hgt).false
  have hcolumn : p.column = q.column := (Nat.add_left_cancel (hp.add_column hq hline)).symm
  exact congrArg₂ mk hline hcolumn

/-- **An offset has the position at which it is located**, and no other. -/
theorem ofOffset_eq_iff {offset : ℤ} :
    ofOffset source offset = p ↔ p.Locates source (clamp source.length offset) :=
  ⟨fun h => h ▸ locates_ofOffset source offset, (locates_ofOffset source offset).unique⟩

end Position

/-! ### Snippets -/

/-- That no line of a text ends in a carriage return. -/
def NoReturns (cs : List Char) : Prop := ¬['\r'] <:+ cs ∧ ¬['\r', '\n'] <:+: cs

/-- In a text without such returns, no line is shortened for being shown. -/
theorem NoReturns.dropEndWhile_eq {pre line rest : List Char}
    (h : NoReturns (pre ++ (line ++ rest))) (hrest : ∀ c ∈ rest.head?, c = '\n') :
    Text.dropEndWhile (· == '\r') line = line := by
  obtain rfl | ⟨init, last, rfl⟩ := List.eq_nil_or_concat line
  · rfl
  have hlast : last ≠ '\r' := by
    rintro rfl
    cases rest with
    | nil => exact h.1 ⟨pre ++ init, by simp⟩
    | cons c rest =>
      obtain rfl := hrest c rfl
      exact h.2 ⟨pre ++ init, rest, by simp⟩
  rw [Text.dropEndWhile, List.concat_eq_append, List.reverse_concat,
    List.dropWhile_cons_of_neg (by simpa using hlast), List.reverse_cons, List.reverse_reverse]

namespace Report

variable {pre mid post front : List Char} {before : List (List Char)} {source : List Char}

/-- The part of a line behind an offset, cut where the span ends or not cut if it ends on a later
line. -/
theorem exists_under (h : Front pre before front) {stop : Position}
    (hstop : ∀ {lines last}, Front (pre ++ mid) lines last →
      stop = ⟨lines.length + 1, last.length + 1⟩) (post : List Char) :
    ∃ under behind, (mid ++ post).takeWhile (· != '\n') = under ++ behind ∧
      (stop.line = before.length + 1 → under = mid) ∧
      (stop.line ≠ before.length + 1 → behind = []) ∧
      underline ⟨before.length + 1, front.length + 1⟩ stop (front ++ (under ++ behind)).length =
        max 1 under.length := by
  by_cases hmid : '\n' ∈ mid
  · obtain ⟨lines, last, hlines⟩ := Front.exists_front (pre ++ mid)
    have hbelow : stop.line ≠ before.length + 1 := by
      have hcount := List.count_pos_iff.2 hmid
      have htotal := hlines.count
      rw [List.count_append, h.count] at htotal
      rw [hstop hlines]
      simp only
      omega
    refine ⟨_, [], (List.append_nil _).symm, fun heq => absurd heq hbelow, fun _ => rfl, ?_⟩
    rw [underline, if_neg hbelow, List.append_nil, List.length_append]
    congr 1
    simp only
    omega
  · have hstop := hstop (h.append hmid)
    have hbehind : (mid ++ post).takeWhile (· != '\n') = mid ++ post.takeWhile (· != '\n') :=
      List.takeWhile_append_of_pos fun c hc => bne_iff_ne.2 fun hfeed => hmid (hfeed ▸ hc)
    refine ⟨mid, _, hbehind, fun _ => rfl, fun hne => absurd (by rw [hstop]) hne, ?_⟩
    rw [hstop, underline, if_pos rfl, List.length_append]
    congr 1
    simp only
    omega

/-- The blanks in front of the rows of a report that show no line. -/
def blank (line : ℕ) : String :=
  String.ofList (List.replicate ((Digits.toText line).length + 1) ' ')

/-- The rows of a report. -/
theorem render_eq {report : Report} (hsource : report.source ≠ "") (name : String)
    {start stop : Position}
    (hstart : Position.ofOffset report.source.toList report.span.start = start)
    (hstop : Position.ofOffset report.source.toList report.span.stop = stop) (line : List Char)
    (hline : Text.dropEndWhile (· == '\r') (lineAt report.source.toList start.line) = line) :
    report.render name =
      "error: " ++ report.message ++ "\n" ++
        (blank start.line ++ "--> " ++ name ++ ":" ++ Digits.toText start.line ++ ":" ++
          Digits.toText start.column) ++ "\n" ++
        (blank start.line ++ "|") ++ "\n" ++
        (Digits.toText start.line ++ " | ") ++ String.ofList line ++ "\n" ++
        (blank start.line ++ "| ") ++ String.ofList (List.replicate (start.column - 1) ' ' ++
          List.replicate (underline start stop line.length) '^') := by
  have hnonempty : report.source.isEmpty = false := by simpa using hsource
  subst hstart hstop hline
  simp only [render, hnonempty, Bool.false_eq_true, if_false, blank, String.append_assoc]
  rfl

/-- What a report shows of its source if its span goes from `start` to `stop`: the line of the
start, which is `front`, `under` and `behind`, with carets under `under`. -/
structure Shows (report : Report) (name : String) (start stop : Position)
    (front under behind : List Char) : Prop where
  line : (report.source.toList.splitOn '\n')[start.line - 1]? = some (front ++ (under ++ behind))
  column : start.column = front.length + 1
  /-- A span that ends on the same line is underlined. -/
  under_eq : stop.line = start.line → under = (report.source.toList.take
    (Position.clamp report.source.toList.length report.span.stop)).drop
      (Position.clamp report.source.toList.length report.span.start)
  /-- A span that ends on a later line is underlined to the end of the line. -/
  behind_eq : stop.line ≠ start.line → behind = []
  /-- The line and the carets have equally wide gutters. -/
  width : (Digits.toText start.line ++ " | ").length = (blank start.line ++ "| ").length
  render : report.render name =
    "error: " ++ report.message ++ "\n" ++
      (blank start.line ++ "--> " ++ name ++ ":" ++ Digits.toText start.line ++ ":" ++
        Digits.toText start.column) ++ "\n" ++
      (blank start.line ++ "|") ++ "\n" ++
      (Digits.toText start.line ++ " | ") ++ String.ofList (front ++ (under ++ behind)) ++ "\n" ++
      (blank start.line ++ "| ") ++ String.ofList
        (List.replicate front.length ' ' ++ List.replicate (max 1 under.length) '^')

/-- **A report shows the line of its start**, with carets under the span. -/
theorem exists_shows {report : Report} (hsource : report.source ≠ "")
    (hspan : report.span.start ≤ report.span.stop) (hreturns : NoReturns report.source.toList)
    {start stop : Position}
    (hstart : Position.ofOffset report.source.toList report.span.start = start)
    (hstop : Position.ofOffset report.source.toList report.span.stop = stop) (name : String) :
    ∃ front under behind, report.Shows name start stop front under behind := by
  have hrows := render_eq hsource name hstart hstop
  generalize hcs : report.source.toList = source at *
  have hle := Position.clamp_mono source.length hspan
  have hlength := Position.clamp_le source.length report.span.start
  generalize ha : Position.clamp source.length report.span.start = a at *
  generalize hb : Position.clamp source.length report.span.stop = b at *
  have htake := Text.take_append_slice source hle
  have hdrop : (source.take b).drop a ++ source.drop b = source.drop a := by
    conv_rhs => rw [← List.take_append_drop b source]
    rw [List.drop_append_of_le_length]
    rw [List.length_take]
    exact le_min hle hlength
  obtain ⟨before, front, hfront⟩ := Front.exists_front (source.take a)
  obtain rfl : start = ⟨before.length + 1, front.length + 1⟩ :=
    hstart.symm.trans (Position.ofOffset_eq (ha ▸ hfront))
  have hend {lines : List (List Char)} {last : List Char}
      (h : Front (source.take a ++ (source.take b).drop a) lines last) :
      stop = ⟨lines.length + 1, last.length + 1⟩ :=
    hstop.symm.trans (Position.ofOffset_eq (by rwa [hb, ← htake]))
  obtain ⟨under, behind, hparts, hsame, hlater, hcarets⟩ :=
    exists_under hfront hend (source.drop b)
  rw [hdrop] at hparts
  obtain ⟨after, hlines⟩ := hfront.splitOn (source.drop a)
  rw [List.take_append_drop, hparts] at hlines
  have hline : (source.splitOn '\n')[before.length + 1 - 1]? =
      some (front ++ (under ++ behind)) := by
    rw [hlines]
    simp
  have hshown : Text.dropEndWhile (· == '\r') (lineAt source (before.length + 1)) =
      front ++ (under ++ behind) := by
    have hcut : source = before.flatMap (· ++ ['\n']) ++
        ((front ++ (under ++ behind)) ++ (source.drop a).dropWhile (· != '\n')) := by
      rw [List.append_assoc front, ← hparts, List.takeWhile_append_dropWhile, ← List.append_assoc,
        ← hfront.eq, List.take_append_drop]
    rw [lineAt, Text.feedLines_eq_splitOn, hline]
    refine NoReturns.dropEndWhile_eq (hcut ▸ hreturns) fun c hc => ?_
    simpa using Text.head?_dropWhile (f := (· != '\n')) _ c hc
  refine ⟨front, under, behind, ?_, rfl, ?_, hlater, ?_, ?_⟩
  · rwa [hcs]
  · rwa [hcs, ha, hb]
  · have hline : " | ".length = 3 := rfl
    have hcarets : "| ".length = 2 := rfl
    rw [String.length_append, hline, String.length_append, hcarets, blank, String.length_ofList,
      List.length_replicate]
  · rw [hrows _ hshown, hcarets]
    rfl

/-- **A report underlines its span.** Each offset has one position, and later offsets have later
ones. In a text no line of which ends in a carriage return, what is shown is the line of the start,
in parts: what is in front of the start, then as many characters as there are carets, which are
those of the span if it ends on the same line and all up to the end of the line otherwise. If there
are none, there is one caret all the same. -/
theorem render_underlines (report : Report) (name : String) :
    let source := report.source.toList
    (∀ offset p, Position.ofOffset source offset = p ↔
      p.Locates source (Position.clamp source.length offset)) ∧
    (∀ i j, Position.clamp source.length i < Position.clamp source.length j →
      (Position.ofOffset source i).line < (Position.ofOffset source j).line ∨
        (Position.ofOffset source i).line = (Position.ofOffset source j).line ∧
          (Position.ofOffset source i).column < (Position.ofOffset source j).column) ∧
    (report.source ≠ "" → report.span.start ≤ report.span.stop → NoReturns source →
      ∃ front under behind, report.Shows name (Position.ofOffset source report.span.start)
        (Position.ofOffset source report.span.stop) front under behind) :=
  ⟨fun _ _ => Position.ofOffset_eq_iff,
    fun i j => (Position.locates_ofOffset _ i).lex_of_lt (Position.locates_ofOffset _ j),
    fun hsource hspan hreturns => exists_shows hsource hspan hreturns rfl rfl name⟩

/-- A span on the second line of two. -/
theorem render_underlines_below :
    let report : Report := ⟨.evaluation, "too much", ⟨6, 11⟩, "1 +\n2 99999 3"⟩
    report.source ≠ "" ∧ report.span.start ≤ report.span.stop ∧
      NoReturns report.source.toList ∧
        ∃ front under behind, report.Shows "<expr>" ⟨2, 3⟩ ⟨2, 8⟩ front under behind ∧
          under = ['9', '9', '9', '9', '9'] := by
  intro report
  have hsource : report.source ≠ "" := by decide
  have hreturns : NoReturns report.source.toList := by unfold NoReturns; decide +kernel
  have hstart : Position.ofOffset report.source.toList 6 = ⟨2, 3⟩ := by decide +kernel
  have hstop : Position.ofOffset report.source.toList 11 = ⟨2, 8⟩ := by decide +kernel
  obtain ⟨-, -, hshows⟩ := render_underlines report "<expr>"
  obtain ⟨front, under, behind, h⟩ := hshows hsource (by decide) hreturns
  rw [show report.span = ⟨6, 11⟩ from rfl, hstart, hstop] at h
  exact ⟨hsource, by decide, hreturns, front, under, behind, h,
    (h.under_eq rfl).trans (by decide +kernel)⟩

end Report
end Reckoner
