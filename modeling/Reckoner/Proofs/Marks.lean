/-
# What a diagnostic marks

The span of an error counts the characters of the folded text, and the diagnostic takes it over into
the line as it was written, cut at the end of the line. So what is marked is what the error is about
wherever folding leaves offsets alone: if the line up to each end of the span folds to the folded
text up to there, the marked characters fold to those of the span (`diagnoseLine_marks`). Behind a
character that becomes several, the mark is off (`diagnoseLine_misses`).

The reason is that everything in front of an error was read as tokens, and the characters of tokens
take no part in the normal form (`Token.inert`). What stands behind them folds as it does alone.
-/

import Reckoner.Proofs.Diagnostics
import Reckoner.Proofs.Glyph
import Reckoner.Proofs.Placeholders

namespace Reckoner

open Text (Inert)

/-! ### Characters of tokens -/

namespace Token

/-- Blanks and the characters of tokens. -/
def Legible (c : Char) : Prop :=
  Text.isBlank c ∨ c ∈ symbolChars ∨ c = '.' ∨ isLiteralPart c

/-- Legible characters take no part in the normal form. -/
theorem Legible.inert {c : Char} (h : Legible c) : Inert c := by
  obtain hblank | htoken := h
  · exact Text.inert_of_isBlank hblank
  have hdisjoint : (Text.unsettled ||| Text.firstCodes) &&&
      (Text.Codes.range 0x25 0x39 ||| Text.Codes.range 0x5E 0x5F) = 0 := by decide +kernel
  refine Text.inert_of_testBit hdisjoint ?_
  have hall : symbolChars.all fun c => 0x25 ≤ c.toNat ∧ c.toNat ≤ 0x39 ∨ c = '^' := by decide
  have hsymbols (c : Char) (hc : c ∈ symbolChars) : 0x25 ≤ c.toNat ∧ c.toNat ≤ 0x39 ∨ c = '^' :=
    of_decide_eq_true (List.all_eq_true.1 hall c hc)
  simp only [Nat.testBit_or, Text.Codes.testBit_range, Bool.or_eq_true, Bool.and_eq_true,
    decide_eq_true_eq]
  obtain hsymbol | rfl | hpart := htoken
  · obtain h | rfl := hsymbols c hsymbol
    · exact .inl h
    · exact .inr (by decide)
  · exact .inl (by decide)
  · simp only [isLiteralPart, isSeparator, Bool.or_eq_true, beq_iff_eq] at hpart
    obtain hdigit | rfl | rfl := hpart
    · have := toNat_of_isDigit hdigit
      omega
    · exact .inr (by decide)
    · exact .inl (by decide)

/-- The characters of a literal are legible. -/
theorem legible_literal {c : Char} (hstart : isLiteralStart c) (pointSeen : Bool) (cs : List Char) :
    ∀ d ∈ c :: (splitLiteral pointSeen cs).1, Legible d := by
  refine List.forall_mem_cons.2 ⟨?_, fun d hd => .inr (.inr (mem_splitLiteral hd))⟩
  rw [isLiteralStart, Bool.or_eq_true, beq_iff_eq] at hstart
  obtain hdigit | hpoint := hstart
  · exact .inr (.inr (.inr (Bool.or_eq_true_iff.2 (.inl hdigit))))
  · exact .inr (.inr (.inl hpoint))

/-- That there are only legible characters in front of an error, if a text is scanned from `start`
on. -/
def ScanError.Behind (e : ScanError) (start : ℕ) (cs : List Char) : Prop :=
  ∃ before rest, cs = before ++ rest ∧ e.span.start = start + before.length ∧
    ∀ c ∈ before, Legible c

/-- More legible characters may stand in front. -/
theorem ScanError.Behind.append {e : ScanError} {start : ℕ} {raw cs : List Char}
    (hraw : ∀ c ∈ raw, Legible c) (h : ScanError.Behind e (start + raw.length) cs) :
    ScanError.Behind e start (raw ++ cs) := by
  obtain ⟨before, rest, rfl, hstart, hbefore⟩ := h
  refine ⟨raw ++ before, rest, (List.append_assoc ..).symm, ?_, ?_⟩
  · rw [hstart, List.length_append]
    push_cast
    ring
  · exact fun c hc => (List.mem_append.1 hc).elim (hraw c) (hbefore c)

/-- **In front of an error of scanning there are only legible characters.** -/
theorem behind_of_scanFrom {done : List Token} {start : ℕ} {cs : List Char} {e : ScanError}
    (h : scanFrom done start cs = .error e) : ScanError.Behind e start cs := by
  fun_induction scanFrom done start cs with
  | case1 => cases h
  | case2 done start cs ih =>
    have hraw : ∀ c ∈ ['*', '*'], Legible c := by
      simp only [List.forall_mem_cons]
      exact ⟨.inr (.inl (by decide)), .inr (.inl (by decide)), List.forall_mem_nil _⟩
    exact .append hraw (ih h)
  | case3 done start c cs _ hblank ih =>
    exact .append (List.forall_mem_singleton.2 (.inl hblank)) (ih h)
  | case4 done start c cs =>
    cases h
    exact ⟨[], c :: cs, rfl, by simp, List.forall_mem_nil _⟩
  | case5 done start c cs _ _ hstart split literal value hvalue ih =>
    have hcut : c :: cs = literal ++ split.2 := by
      rw [List.cons_append, splitLiteral_append]
    rw [hcut]
    exact .append (legible_literal hstart _ cs) (ih h)
  | case6 done start c cs =>
    cases h
    exact ⟨[], c :: cs, rfl, by simp, List.forall_mem_nil _⟩
  | case7 done start c cs hstar _ _ kind hsymbol ih =>
    exact .append
      (List.forall_mem_singleton.2 (.inr (.inl (mem_of_symbol?_eq_some hsymbol)))) (ih h)

end Token

/-! ### Offsets -/

/-- The characters of a text from one offset up to another. -/
def slice (text : String) (start stop : ℕ) : String :=
  String.ofList ((text.toList.take stop).drop start)

/-- That folding leaves an offset alone: the text up to it folds to the folded text up to it. -/
def Aligned (text : String) (k : ℕ) : Prop :=
  Glyph.foldChars (text.toList.take k) = (Glyph.foldChars text.toList).take k

/-- Folding leaves each offset of a text of ASCII alone. -/
theorem aligned_of_ascii {text : String} (h : ∀ c ∈ text.toList, c.toNat ≤ 0x7F) (k : ℕ) :
    Aligned text k := by
  rw [Aligned, Glyph.foldChars_of_ascii h,
    Glyph.foldChars_of_ascii fun c hc => h c (List.mem_of_mem_take hc)]

/-- Offsets moved into a text cut out the same characters. -/
theorem slice_clamp (text : String) (a b : ℕ) :
    slice text (min a text.length) (min (max a b) text.length) = slice text a b := by
  rw [slice, slice, ← String.length_toList]
  congr 1
  obtain hle | hlt := le_or_gt a text.toList.length
  · rw [min_eq_left hle, List.drop_take, List.drop_take, List.take_eq_take_iff, List.length_drop]
    omega
  · rw [List.drop_eq_nil_of_le, List.drop_eq_nil_of_le] <;> rw [List.length_take] <;> omega

/-- **What is marked folds to what is meant**, if folding leaves both ends alone and what stands in
front of them takes no part in the normal form. -/
theorem fold_slice {text : String} {a b : ℕ} (ha : Aligned text a) (hb : Aligned text b)
    (hinert : ∀ c ∈ (Glyph.foldChars text.toList).take a, Inert c) :
    Glyph.fold (slice text a b) = slice (Glyph.fold text) a b := by
  rw [Glyph.fold, Glyph.fold, slice, slice, String.toList_ofList, String.toList_ofList]
  congr 1
  rw [Aligned] at ha hb
  generalize text.toList = cs at *
  obtain hle | hlt := le_or_gt a b
  · rw [← Text.take_append_slice cs hle, Glyph.foldChars_append (ha ▸ hinert), ha,
      ← Text.take_append_slice (Glyph.foldChars cs) hle] at hb
    exact List.append_cancel_left hb
  · have hnil (xs : List Char) : (xs.take b).drop a = [] :=
      List.drop_eq_nil_of_le ((List.length_take_le b xs).trans hlt.le)
    rw [hnil, hnil]
    rfl

/-! ### Diagnostics -/

/-- A text without variables is filled in with itself, if it is filled in. -/
theorem Template.eq_of_fill_nil {text filled : String} (h : fill [] text = .ok filled) :
    filled = text := by
  obtain ⟨layout, htight, hrender⟩ := Layout.exists_tight text.toList
  rw [fill, ← hrender, fillFrom_tight htight] at h
  cases layout with
  | literal cs =>
    obtain rfl : String.ofList ([] ++ cs) = filled := Except.ok.inj h
    rw [List.nil_append, ← String.ofList_toList (s := text), ← hrender]
    rfl
  | placeholder cs p rest => cases h

/-- Whether an error came up behind the value, in printing a step or in a term. Its report shows no
text. -/
def CalculationError.isBehindValue : CalculationError → Bool
  | step _ | summary _ => true
  | template _ | text .. | evaluation .. => false

/-- Whether in front of the place of a report there are only legible characters in a text. -/
def Report.Legible (report : Report) (source : String) : Prop :=
  ∀ c ∈ source.toList.take report.span.start.toNat, Token.Legible c

/-- In a text that is scanned to its end, all characters are legible. -/
theorem Report.legible_of_scans (report : Report) {source : String} {start : ℕ}
    {tokens : List Token} (h : Token.Scans start source.toList tokens) : report.Legible source :=
  fun _ hc => h.mem_cases (List.mem_of_mem_take hc)

/-- In a text that is read, all characters are legible. -/
theorem Report.legible_of_ofText (report : Report) {source : String} {levels : ℕ} {e : Expr}
    (h : Expr.ofText source levels = .ok e) : report.Legible source := by
  obtain ⟨tokens, hscans, -⟩ := Expr.ofText_eq_ok_iff.1 h
  exact report.legible_of_scans hscans

/-- The report of a text that is not read. -/
theorem Expr.TextError.source_eq_and_legible {source : String} {levels : ℕ} {error : TextError}
    (h : ofText source levels = .error error) {report : Report}
    (hreport : error.report? source = some report) :
    report.source = source ∧ report.Legible source := by
  obtain h | ⟨tokens, hscan, h⟩ := bind_eq_error_iff.1 h
  · obtain ⟨error, hscan, rfl⟩ := mapError_eq_error_iff.1 h
    obtain ⟨before, rest, hsource, hstart, hbefore⟩ := Token.behind_of_scanFrom hscan
    cases hreport
    refine ⟨rfl, fun c hc => hbefore c ?_⟩
    have hlength : error.span.start.toNat = before.length := by omega
    rwa [ScanError.report, hlength, hsource, List.take_left] at hc
  · obtain ⟨error, -, rfl⟩ := mapError_eq_error_iff.1 h
    obtain ⟨read, hread, -⟩ := Token.scan_eq_ok_iff.1 (mapError_eq_ok_iff.1 hscan)
    refine ⟨?_, report.legible_of_scans hread⟩
    cases error <;> cases hreport <;> rfl

/-- The report of a tree without a value shows the text that the tree was read from. -/
theorem EvalError.source_eq {error : EvalError} {source : String} {report : Report}
    (hreport : error.report? source = some report) : report.source = source := by
  cases error with
  | failed fault span => cases fault <;> cases hreport <;> rfl
  | _ => cases hreport; rfl

/-- **What the report of a calculation without variables shows**: the folded text, or no text if the
error came up behind the value, where the levels run out. -/
theorem Calculation.source_eq_and_legible {limits : Limits} {settings : Settings} {text : String}
    {e : CalculationError} {report : Report} (h : run limits settings [] text = .error e)
    (hreport : e.report? = some report) (hkind : report.kind ≠ .template) :
    (report.source = if e.isBehindValue then "" else Glyph.fold text) ∧
      (e.isBehindValue → report.kind = .evaluation ∧ report.message = Expr.tooDeep) ∧
        report.Legible (Glyph.fold text) := by
  cases run_eq_error_iff.1 h with
  | template hfill =>
    cases hreport
    exact absurd rfl hkind
  | text hfill hread =>
    cases Template.eq_of_fill_nil hfill
    obtain ⟨hsource, hlegible⟩ := Expr.TextError.source_eq_and_legible hread hreport
    exact ⟨hsource, nofun, hlegible⟩
  | evaluation hfill hread =>
    cases Template.eq_of_fill_nil hfill
    exact ⟨EvalError.source_eq hreport, nofun, report.legible_of_ofText hread⟩
  | step hfill hread =>
    cases Template.eq_of_fill_nil hfill
    cases hreport
    exact ⟨rfl, fun _ => ⟨rfl, rfl⟩, Report.legible_of_ofText _ hread⟩
  | summary hfill hread _ _ _ hdepth =>
    cases Template.eq_of_fill_nil hfill
    obtain ⟨span, rfl | rfl⟩ := hdepth <;> cases hreport <;>
      exact ⟨rfl, fun _ => ⟨rfl, rfl⟩, Report.legible_of_ofText _ hread⟩

/-- **A diagnostic marks what it is about**, as far as folding leaves offsets alone. The diagnostic
of a line that cannot be read or has no value has the span of the error in the folded line, moved
into the line as it was written. The report of the error shows the folded line, unless the value was
found and a step or a term is nested too deeply. If the line up to each end of the span folds to the
folded line up to there, which is so in lines of ASCII, then the marked characters fold to those of
the span. -/
theorem diagnoseLine_marks {limits : Limits} {text : String}
    (hblank : ¬Text.isBlankText text.toList) {e : CalculationError} {report : Report}
    (hrun : Calculation.run limits {} [] text = .error e) (hreport : e.report? = some report)
    (hkind : report.kind ≠ .template) (line : ℕ) :
    (report.source = if e.isBehindValue then "" else Glyph.fold text) ∧
    (e.isBehindValue → report.kind = .evaluation ∧ report.message = Expr.tooDeep) ∧
    ((∀ c ∈ text.toList, c.toNat ≤ 0x7F) → ∀ k, Aligned text k) ∧
    ∃ d, diagnoseLine limits line text = [d] ∧ d.line = line ∧
      d.start = min report.span.start.toNat text.length ∧
      d.stop = min (max report.span.start.toNat report.span.stop.toNat) text.length ∧
      (Aligned text report.span.start.toNat → Aligned text report.span.stop.toNat →
        Glyph.fold (slice text d.start d.stop) =
          slice (Glyph.fold text) report.span.start.toNat report.span.stop.toNat) := by
  obtain ⟨hsource, hlate, hlegible⟩ := Calculation.source_eq_and_legible hrun hreport hkind
  have hinert : ∀ c ∈ (Glyph.foldChars text.toList).take report.span.start.toNat, Inert c :=
    fun c hc => (hlegible c (by rwa [Glyph.fold, String.toList_ofList])).inert
  have hstop : (report.diagnostic line text.length).stop =
      min (max report.span.start.toNat report.span.stop.toNat) text.length := by
    have hmax : (max report.span.start report.span.stop).toNat =
        max report.span.start.toNat report.span.stop.toNat := by omega
    simp only [Report.diagnostic, Position.clamp, hmax]
  refine ⟨hsource, hlate, aligned_of_ascii, report.diagnostic line text.length,
    diagnoseLine_of_error hblank hrun hreport, rfl, rfl, hstop, fun ha hb => ?_⟩
  have hstart : (report.diagnostic line text.length).start =
      min report.span.start.toNat text.length := rfl
  rw [hstart, hstop, slice_clamp, fold_slice ha hb hinert]

/-- A span that ends behind the line is cut there, and what it marks becomes longer by folding. -/
theorem diagnoseLine_marks_circled :
    ¬Text.isBlankText "1 ⑩".toList ∧
      Calculation.run {} {} [] "1 ⑩" = .error (.text (.parse (.trailing ⟨2, 4⟩)) "1 10") ∧
        Aligned "1 ⑩" 2 ∧ Aligned "1 ⑩" 4 ∧
          ∃ d, diagnoseLine {} 0 "1 ⑩" = [d] ∧ d.start = 2 ∧ d.stop = 3 ∧
            Glyph.fold (slice "1 ⑩" d.start d.stop) = "10" := by
  have hblank : ¬Text.isBlankText "1 ⑩".toList := by decide +kernel
  have hrun : Calculation.run {} {} [] "1 ⑩" =
      .error (.text (.parse (.trailing ⟨2, 4⟩)) "1 10") := by decide +kernel
  have hstart : Aligned "1 ⑩" 2 := by unfold Aligned; decide +kernel
  have hstop : Aligned "1 ⑩" 4 := by unfold Aligned; decide +kernel
  have hslice : slice (Glyph.fold "1 ⑩") 2 4 = "10" := by decide +kernel
  obtain ⟨-, -, -, d, hd, -, hfrom, hto, hmarks⟩ :=
    diagnoseLine_marks hblank hrun rfl (by decide) 0
  exact ⟨hblank, hrun, hstart, hstop, d, hd, hfrom, hto, (hmarks hstart hstop).trans hslice⟩

/-- **Not every mark is right**: behind a character that folds to two, the mark is one off. -/
theorem diagnoseLine_misses :
    ¬∀ (text : String) (e : CalculationError) (report : Report),
      ¬Text.isBlankText text.toList → Calculation.run {} {} [] text = .error e →
        e.report? = some report → report.kind ≠ .template → ∀ d ∈ diagnoseLine {} 0 text,
          Glyph.fold (slice text d.start d.stop) =
            slice (Glyph.fold text) report.span.start.toNat report.span.stop.toNat := by
  intro h
  have hrun : Calculation.run {} {} [] "⑩ x + 1" =
      .error (.text (.scan ⟨.unsupported 'x', ⟨3, 4⟩⟩) "10 x + 1") := by decide +kernel
  have hfound : diagnoseLine {} 0 "⑩ x + 1" =
      [⟨0, 3, 4, .error, .syntactic, "unsupported character 'x'"⟩] := by decide +kernel
  have hmarks := h _ _ _ (by decide +kernel) hrun rfl (by decide) _
    (hfound ▸ List.mem_singleton_self _)
  revert hmarks
  decide +kernel

end Reckoner
