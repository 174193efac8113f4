/-
# Diagnostics belong to their lines

What is published about a document depends on its current text only, and what it says about a line
on that line only. Both are seen from the text as a list of lines (`feedLines_eq_splitOn`): a
document's diagnostics are those of its lines one after another (`diagnoseFrom`), each line has at
most one, and one line replaced by another is one element of the list replaced
(`splitOn_replaceLine`).

| a line that is not blank | its diagnostic | the exit of a run with it |
| --- | --- | ---: |
| is calculated | none | 0 |
| cannot be read | an error | 1 |
| has no value | a warning | 2 |
-/

import Reckoner.Diagnostics
import Reckoner.Proofs.CommandLine

namespace Reckoner

/-! ### Lines -/

namespace Text

/-- Lines are split off at line feeds, with what was read of the first one in front. -/
theorem feedLinesFrom_eq (line cs : List Char) :
    feedLinesFrom line cs = List.splitOnPPrepend (· == '\n') cs line := by
  induction cs generalizing line with
  | nil => rw [feedLinesFrom, List.splitOnPPrepend_nil]
  | cons c cs ih =>
    simp only [feedLinesFrom, ih, List.splitOnPPrepend_cons_eq_if, beq_iff_eq]
    rfl

/-- The lines of a text are what is between its line feeds. -/
theorem feedLines_eq_splitOn (cs : List Char) : feedLines cs = cs.splitOn '\n' :=
  feedLinesFrom_eq [] cs

end Text

/-- No line holds a line feed. -/
theorem not_mem_of_mem_splitOn {cs line : List Char} (h : line ∈ cs.splitOn '\n') :
    '\n' ∉ line := by
  induction cs generalizing line with
  | nil =>
    rw [List.splitOn_nil, List.mem_singleton] at h
    exact h ▸ List.not_mem_nil
  | cons c cs ih =>
    rw [List.splitOn_cons_eq_if_modifyHead] at h
    split_ifs at h with hc
    · obtain rfl | h := List.mem_cons.1 h
      · exact List.not_mem_nil
      · exact ih h
    · cases hlines : cs.splitOn '\n' with
      | nil => exact absurd hlines (List.splitOn_ne_nil _ _)
      | cons first rest =>
        rw [hlines] at ih h
        obtain rfl | h := List.mem_cons.1 h
        · rw [List.mem_cons, not_or]
          exact ⟨fun h => hc (beq_iff_eq.2 h.symm), ih List.mem_cons_self⟩
        · exact ih (List.mem_cons_of_mem _ h)

/-- A text with another text in place of one of its lines. -/
def replaceLine (text : String) (k : ℕ) (line : String) : String :=
  String.ofList (['\n'].intercalate ((text.toList.splitOn '\n').set k line.toList))

/-- Replacing a line of a text replaces it in the list of lines. -/
theorem splitOn_replaceLine (text : String) (k : ℕ) {line : String} (hline : '\n' ∉ line.toList) :
    (replaceLine text k line).toList.splitOn '\n' =
      (text.toList.splitOn '\n').set k line.toList := by
  rw [replaceLine, String.toList_ofList, List.splitOn_intercalate]
  · intro l hl
    obtain hl | rfl := List.mem_or_eq_of_mem_set hl
    · exact not_mem_of_mem_splitOn hl
    · exact hline
  · rw [Ne, List.set_eq_nil_iff]
    exact List.splitOn_ne_nil _ _

/-- A line as it is calculated: without the carriage returns at its end. -/
def lineText (line : List Char) : String := String.ofList (Text.dropEndWhile (· == '\r') line)

/-- The lines of a document, without the carriage returns at their ends. -/
theorem documentLines_eq (text : String) :
    documentLines text = (text.toList.splitOn '\n').map lineText := by
  rw [documentLines, Text.feedLines_eq_splitOn]
  rfl

/-- Carriage returns are blanks. -/
theorem isBlankText_lineText (line : List Char) :
    Text.isBlankText (lineText line).toList = Text.isBlankText line := by
  have hreturns : ∀ c ∈ line.reverse.takeWhile (· == '\r'), Text.isBlank c := fun c hc => by
    obtain rfl : c = '\r' := by simpa using List.mem_takeWhile_imp hc
    decide +kernel
  have hsplit : line.all Text.isBlank =
      (line.reverse.takeWhile (· == '\r') ++ line.reverse.dropWhile (· == '\r')).all
        Text.isBlank := by
    rw [List.takeWhile_append_dropWhile, List.all_reverse]
  rw [lineText, String.toList_ofList, Text.isBlankText, Text.isBlankText, Text.dropEndWhile,
    List.all_reverse, hsplit, List.all_append, List.all_eq_true.2 hreturns, Bool.true_and]

/-! ### Diagnostics of lines -/

variable {limits : Limits}

/-- A clamped offset is within the line. -/
theorem Position.clamp_le (length : ℕ) (offset : ℤ) : clamp length offset ≤ length :=
  min_le_right _ _

/-- Clamping keeps the order of offsets. -/
theorem Position.clamp_mono (length : ℕ) {a b : ℤ} (h : a ≤ b) : clamp length a ≤ clamp length b :=
  min_le_min_right _ (Int.toNat_le_toNat h)

/-- A line has at most one diagnostic. -/
theorem length_diagnoseLine_le (limits : Limits) (n : ℕ) (text : String) :
    (diagnoseLine limits n text).length ≤ 1 := by
  rw [diagnoseLine]
  split_ifs
  · simp
  · split
    · simp
    · exact Option.length_toList_le

/-- The diagnostic of a line lies in the line. -/
theorem of_mem_diagnoseLine (limits : Limits) {n : ℕ} {text : String} {d : Diagnostic}
    (h : d ∈ diagnoseLine limits n text) :
    d.line = n ∧ d.start ≤ d.stop ∧ d.stop ≤ text.length := by
  rw [diagnoseLine] at h
  split_ifs at h
  · cases h
  · split at h
    · cases h
    · obtain ⟨report, -, rfl⟩ := Option.map_eq_some_iff.1 (Option.mem_toList.1 h)
      exact ⟨rfl, Position.clamp_mono _ (le_max_left _ _), Position.clamp_le _ _⟩

/-- The diagnostics of lines that are counted from `start`. -/
def diagnoseFrom (limits : Limits) (start : ℕ) (lines : List String) : List Diagnostic :=
  (lines.zipIdx start).flatMap fun p => diagnoseLine limits p.2 p.1

/-- The diagnostics of the first line come first. -/
theorem diagnoseFrom_cons (start : ℕ) (line : String) (lines : List String) :
    diagnoseFrom limits start (line :: lines) =
      diagnoseLine limits start line ++ diagnoseFrom limits (start + 1) lines :=
  rfl

/-- The diagnostics of a text are those of its lines, counted from zero. -/
theorem diagnose_eq (text : String) :
    diagnose limits text = diagnoseFrom limits 0 ((text.toList.splitOn '\n').map lineText) := by
  rw [← documentLines_eq]
  rfl

/-- No diagnostic is at a line before the first one. -/
theorem le_line_of_mem_diagnoseFrom {start : ℕ} {lines : List String} {d : Diagnostic}
    (h : d ∈ diagnoseFrom limits start lines) : start ≤ d.line := by
  obtain ⟨p, hp, hd⟩ := List.mem_flatMap.1 h
  exact (of_mem_diagnoseLine limits hd).1 ▸ List.le_snd_of_mem_zipIdx hp

/-- The line of a diagnostic is there, and the diagnostic lies in it. -/
theorem of_mem_diagnose {text : String} {d : Diagnostic} (h : d ∈ diagnose limits text) :
    ∃ line, (text.toList.splitOn '\n')[d.line]? = some line ∧ d.start ≤ d.stop ∧
      d.stop ≤ (Text.dropEndWhile (· == '\r') line).length := by
  rw [diagnose_eq] at h
  obtain ⟨⟨source, n⟩, hp, hd⟩ := List.mem_flatMap.1 h
  have hsource := List.mem_zipIdx_iff_getElem?.1 hp
  rw [List.getElem?_map] at hsource
  obtain ⟨line, hline, rfl⟩ := Option.map_eq_some_iff.1 hsource
  obtain ⟨rfl, hle, hstop⟩ := of_mem_diagnoseLine limits hd
  exact ⟨line, hline, hle, by rwa [lineText, String.length_ofList] at hstop⟩

/-- Diagnostics are in the order of their lines. -/
theorem pairwise_diagnoseFrom (start : ℕ) (lines : List String) :
    (diagnoseFrom limits start lines).Pairwise fun a b => a.line < b.line := by
  induction lines generalizing start with
  | nil => exact .nil
  | cons line lines ih =>
    refine List.pairwise_append.2 ⟨?_, ih _, fun a ha b hb => ?_⟩
    · have hlength := length_diagnoseLine_le limits start line
      change (diagnoseLine limits start line).Pairwise _
      match diagnoseLine limits start line, hlength with
      | [], _ => exact .nil
      | [d], _ => exact List.pairwise_singleton _ d
    · rw [(of_mem_diagnoseLine limits ha).1]
      exact le_line_of_mem_diagnoseFrom hb

/-- A condition on lines keeps the diagnostics of a line or drops them. -/
theorem filter_diagnoseLine (limits : Limits) (n : ℕ) (text : String) (p : ℕ → Bool) :
    (diagnoseLine limits n text).filter (fun d => p d.line) =
      if p n then diagnoseLine limits n text else [] := by
  split_ifs with hp
  · exact List.filter_eq_self.2 fun d hd => (of_mem_diagnoseLine limits hd).1 ▸ hp
  · exact List.filter_eq_nil_iff.2 fun d hd => (of_mem_diagnoseLine limits hd).1 ▸ hp

/-- **The diagnostics at a line** are those of the line. -/
theorem filter_diagnoseFrom_of_getElem? {start k : ℕ} {lines : List String} {line : String}
    (h : lines[k]? = some line) :
    (diagnoseFrom limits start lines).filter (·.line = start + k) =
      diagnoseLine limits (start + k) line := by
  induction lines generalizing start k with
  | nil => cases h
  | cons first lines ih =>
    rw [diagnoseFrom_cons, List.filter_append,
      filter_diagnoseLine limits start first (· = start + k)]
    cases k with
    | zero =>
      cases h
      have hrest : (diagnoseFrom limits (start + 1) lines).filter (·.line = start + 0) = [] :=
        List.filter_eq_nil_iff.2 fun d hd => by
          have := le_line_of_mem_diagnoseFrom hd
          simp only [decide_eq_true_eq]
          omega
      rw [hrest]
      simp
    | succ k =>
      have hk : start + (k + 1) = start + 1 + k := by omega
      have hne : start ≠ start + 1 + k := by omega
      rw [hk, ih h]
      simp [hne]

/-- **A line that is replaced** changes no diagnostic of another line. -/
theorem filter_diagnoseFrom_set (limits : Limits) (start k : ℕ) (lines : List String)
    (line : String) :
    (diagnoseFrom limits start (lines.set k line)).filter (·.line ≠ start + k) =
      (diagnoseFrom limits start lines).filter (·.line ≠ start + k) := by
  induction lines generalizing start k with
  | nil => rfl
  | cons first lines ih =>
    cases k with
    | zero =>
      simp only [List.set_cons_zero, diagnoseFrom_cons, List.filter_append]
      rw [filter_diagnoseLine limits start line (· ≠ start + 0),
        filter_diagnoseLine limits start first (· ≠ start + 0)]
      simp
    | succ k =>
      simp only [List.set_cons_succ, diagnoseFrom_cons, List.filter_append]
      have hk : start + (k + 1) = start + 1 + k := by omega
      rw [hk, ih]

/-! ### The sort of a line's diagnostic -/

/-- A text that is calculated by itself ends with a report of a sort. -/
def Calculation.Reports (limits : Limits) (text : String) (kind : Kind) : Prop :=
  ∃ e report, run limits {} [] text = .error e ∧ e.report? = some report ∧ report.kind = kind

/-- A text that is calculated has no report. -/
theorem Calculation.not_reports {text : String} {c : Calculation}
    (h : run limits {} [] text = .ok c) (kind : Kind) : ¬Reports limits text kind := by
  rintro ⟨e, -, he, -⟩
  cases h.symm.trans he

/-- A text has one report, of one sort. -/
theorem Calculation.reports_iff {text : String} {e : CalculationError} {report : Report}
    (h : run limits {} [] text = .error e) (hreport : e.report? = some report) {kind : Kind} :
    Reports limits text kind ↔ report.kind = kind := by
  constructor
  · rintro ⟨e', report', he, hreport', rfl⟩
    cases h.symm.trans he
    cases hreport.symm.trans hreport'
    rfl
  · exact fun hkind => ⟨e, report, h, hreport, hkind⟩

/-- A line that is calculated has no diagnostic. -/
theorem diagnoseLine_of_ok {n : ℕ} {text : String} {c : Calculation}
    (h : Calculation.run limits {} [] text = .ok c) : diagnoseLine limits n text = [] := by
  rw [diagnoseLine, h]
  exact ite_self _

/-- A line that fails with a report has the diagnostic of the report. -/
theorem diagnoseLine_of_error {n : ℕ} {text : String} (hblank : ¬Text.isBlankText text.toList)
    {e : CalculationError} {report : Report} (h : Calculation.run limits {} [] text = .error e)
    (hreport : e.report? = some report) :
    diagnoseLine limits n text = [report.diagnostic n text.length] := by
  rw [diagnoseLine, if_neg hblank]
  simp only [h, hreport]
  rfl

/-- A text on standard input is calculated by itself, if there is no configuration. -/
theorem CommandLine.run_input (limits : Limits) (text : String) :
    run limits [] (.text text) ⟨[], []⟩ =
    Options.run limits ⟨text, [], {}, true, false, false⟩ := by
  have hfile : Folder.read ⟨[], []⟩ configName = .error (.missing configName) := by decide +kernel
  have hconfig : readConfiguration limits ⟨[], []⟩ none = .ok [] := by
    rw [readConfiguration, show (givenPath none).getD configName = configName from rfl, hfile]
  have hargv : Arguments.read [] = .ok {} := by decide +kernel
  have hresolve : Options.resolve limits {} (.text text) ⟨[], []⟩ =
      .ok ⟨text, [], {}, true, false, false⟩ := by
    simp only [Options.resolve, hconfig, bind, Except.bind]
    rfl
  rw [run, hargv]
  simp only [hresolve]

/-- That the severities of what is found in a text are those of the other ways to calculate it: by
itself, and in a run that has it as its standard input. -/
structure Agrees (limits : Limits) (text : String) (found : List Severity) : Prop where
  clean : found = [] ↔ ∃ c, Calculation.run limits {} [] text = .ok c
  warning : found = [.warning] ↔ ∃ kind, kind.isEvaluation ∧ Calculation.Reports limits text kind
  error : found = [.error] ↔
    Calculation.Reports limits text .syntactic ∨ Calculation.Reports limits text .template
  exit : ∃ outcome, CommandLine.run limits [] (.text text) ⟨[], []⟩ = .ok outcome ∧
    (outcome.exit = 0 ↔ found = []) ∧ (outcome.exit = 1 ↔ found = [.error]) ∧
      (outcome.exit = 2 ↔ found = [.warning])

/-- **The severity of a line's diagnostic** is that of the error that its calculation ends with. -/
theorem agrees_diagnoseLine (n : ℕ) {text : String} (hblank : ¬Text.isBlankText text.toList) :
    Agrees limits text ((diagnoseLine limits n text).map (·.severity)) := by
  let options : CommandLine.Options := ⟨text, [], {}, true, false, false⟩
  have hinput : CommandLine.run limits [] (.text text) ⟨[], []⟩ = options.run limits :=
    CommandLine.run_input limits text
  cases hrun : Calculation.run limits {} [] text with
  | ok c =>
    have hnot := Calculation.not_reports hrun
    have houtcome : options.run limits = _ := CommandLine.Options.run_of_ok hrun
    rw [diagnoseLine_of_ok hrun]
    exact {
      clean := by simp [hrun]
      warning := by simp [hnot]
      error := by simp [hnot]
      exit := ⟨_, hinput.trans houtcome, by simp⟩ }
  | error e =>
    obtain ⟨report, hreport, hkind⟩ :=
      Calculation.run_error (show some Rounding.halfUp ≠ none from nofun) hrun
    have houtcome : options.run limits = _ := CommandLine.Options.run_of_report hrun hreport
    -- Which of the two it is depends on the kind of the report alone.
    have hwarning : (∃ kind, kind.isEvaluation ∧ Calculation.Reports limits text kind) ↔
        report.kind.isEvaluation := by
      simp [Calculation.reports_iff hrun hreport]
    have herror : (Calculation.Reports limits text .syntactic ∨
        Calculation.Reports limits text .template) ↔ report.kind.isEvaluation = false := by
      rw [Calculation.reports_iff hrun hreport, Calculation.reports_iff hrun hreport]
      obtain ⟨-, hkind | hkind⟩ | ⟨-, hkind⟩ := hkind
      · simp [hkind, Kind.isEvaluation]
      · simp [hkind, Kind.isEvaluation]
      · cases hreported : report.kind <;> simp_all [Kind.isEvaluation]
    rw [diagnoseLine_of_error hblank hrun hreport]
    refine ⟨by simp [hrun], Iff.trans ?_ hwarning.symm, Iff.trans ?_ herror.symm, _,
      hinput.trans houtcome, ?_⟩
    all_goals cases hevaluation : report.kind.isEvaluation <;>
      simp [Report.diagnostic, CommandLine.reported, hevaluation]

/-! ### Sessions -/

namespace Host

variable {σ : Type} {host : Host σ}

/-- What is relied on of a host: the text of a document that was opened or changed is its new one,
and a handler is called once for each event, after the event was received. -/
structure Lawful (host : Host σ) : Prop where
  textOf_receive (kept : σ) (event : DocumentEvent) :
    host.textOf (host.receive kept event) event.name = event.text
  calls_nil (kept : σ) : host.calls kept [] = []
  calls_cons (kept : σ) (event : DocumentEvent) (events : List DocumentEvent) :
    host.calls kept (event :: events) =
      (host.receive kept event, event) :: host.calls (host.receive kept event) events

/-- **A host that keeps the texts of documents** can be relied on. -/
theorem memory_lawful : memory.Lawful where
  textOf_receive kept event := by
    change ((kept.set event.name event.text).find? event.name).getD "" = event.text
    rw [Bindings.find?_set_self]
    rfl
  calls_nil _ := rfl
  calls_cons _ _ _ := rfl

/-- **What is published after an event** is about its text, whatever happened before. -/
theorem Lawful.published_eq (hhost : host.Lawful) (limits : Limits) (kept : σ)
    (events : List DocumentEvent) : host.published limits kept events =
      events.map fun event => (event.name, diagnose limits event.text) := by
  rw [published]
  induction events generalizing kept with
  | nil => rw [hhost.calls_nil, List.map_nil, List.map_nil]
  | cons event events ih =>
    rw [hhost.calls_cons, List.map_cons, ih, List.map_cons, validate, hhost.textOf_receive]

end Host

/-- **Diagnostics depend on the current text, line by line.** In any host that can be relied on,
each event of a session publishes the diagnostics of its text, which are those that a session
publishes in which only that text is opened. Diagnostics are in the order of their lines, one a
line, and lie in them. A line that is replaced changes those of no other line. A line that is not
blank has one of the severity that the other ways to calculate it give it. -/
theorem diagnostics_of_lines {σ : Type} {host : Host σ} (hhost : host.Lawful) (limits : Limits) :
    (∀ kept events, host.published limits kept events =
      events.map fun event => (event.name, diagnose limits event.text)) ∧
    (∀ start kept events, List.Forall₂ (fun event publication =>
        host.published limits start [.opened event.name event.text] = [publication])
      events (host.published limits kept events)) ∧
    (∀ text, (diagnose limits text).Pairwise (fun a b => a.line < b.line) ∧
      ∀ d ∈ diagnose limits text, ∃ line, (text.toList.splitOn '\n')[d.line]? = some line ∧
        d.start ≤ d.stop ∧ d.stop ≤ (Text.dropEndWhile (· == '\r') line).length) ∧
    (∀ text k line, '\n' ∉ line.toList →
      (diagnose limits (replaceLine text k line)).filter (·.line ≠ k) =
        (diagnose limits text).filter (·.line ≠ k)) ∧
    ∀ text k line, (text.toList.splitOn '\n')[k]? = some line → ¬Text.isBlankText line →
      Agrees limits (lineText line)
        (((diagnose limits text).filter (·.line = k)).map (·.severity)) := by
  refine ⟨hhost.published_eq limits, fun start kept events => ?_,
    fun text => ⟨?_, fun d => of_mem_diagnose⟩, fun text k line hline => ?_,
    fun text k line hline hblank => ?_⟩
  · rw [hhost.published_eq, List.forall₂_map_right_iff, List.forall₂_same]
    exact fun event _ => hhost.published_eq limits start [.opened _ _]
  · rw [diagnose_eq]
    exact pairwise_diagnoseFrom 0 _
  · have h := filter_diagnoseFrom_set limits 0 k
      ((text.toList.splitOn '\n').map lineText) (lineText line.toList)
    rw [Nat.zero_add] at h
    rwa [diagnose_eq, diagnose_eq, splitOn_replaceLine text k hline, List.map_set]
  · have hline' : ((text.toList.splitOn '\n').map lineText)[k]? = some (lineText line) := by
      rw [List.getElem?_map, hline]
      rfl
    have h : (diagnoseFrom limits 0 _).filter (·.line = 0 + k) = _ :=
      filter_diagnoseFrom_of_getElem? hline'
    rw [Nat.zero_add] at h
    rw [diagnose_eq, h]
    exact agrees_diagnoseLine k (by rwa [isBlankText_lineText])

/-- Of two lines that fail, the second one is replaced in a session. -/
theorem diagnostics_of_lines_quotient :
    let first := "1 +\n4 / 0\r"
    let second := replaceLine first 1 "4 / 2"
    Host.memory.Lawful ∧ '\n' ∉ "4 / 2".toList ∧
      (first.toList.splitOn '\n')[1]? = some "4 / 0\r".toList ∧
      ¬Text.isBlankText "4 / 0\r".toList ∧
      Host.memory.published {} [] [.opened "a" first, .opened "b" "", .changed "a" second] =
        [("a", diagnose {} first), ("b", []), ("a", diagnose {} second)] ∧
      (diagnose {} second).filter (·.line ≠ 1) = (diagnose {} first).filter (·.line ≠ 1) ∧
      Agrees {} "4 / 0" [.warning] := by
  intro first second
  obtain ⟨hpublished, -, -, hreplace, hagrees⟩ := diagnostics_of_lines Host.memory_lawful {}
  have hnew : '\n' ∉ "4 / 2".toList := by decide +kernel
  have hline : (first.toList.splitOn '\n')[1]? = some "4 / 0\r".toList := by decide +kernel
  have hblank : ¬Text.isBlankText "4 / 0\r".toList := by decide +kernel
  have hfound : ((diagnose {} first).filter (·.line = 1)).map (·.severity) = [.warning] := by
    decide +kernel
  have htext : lineText "4 / 0\r".toList = "4 / 0" := by decide +kernel
  have hempty : diagnose {} "" = [] := by decide +kernel
  refine ⟨Host.memory_lawful, hnew, hline, hblank, (hpublished _ _).trans ?_, hreplace _ 1 _ hnew,
    hfound ▸ htext ▸ hagrees _ 1 _ hline hblank⟩
  rw [← hempty]
  rfl

end Reckoner
