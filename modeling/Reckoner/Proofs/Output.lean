/-
# What a run writes

The exit status of a run, its standard output and its standard error agree with what came of it.

| came of it | exit | standard output | standard error |
| --- | ---: | --- | --- |
| a calculation | 0 | the value, numbered steps, numbered terms | the outline, with `--debug` |
| an error of a file, a template or a text | 1 | nothing | the error |
| an error of an argument or of the evaluation | 2 | nothing | the error |
| a step or a term that is nested too deeply | 2 | nothing | the error, without the text |

A calculation is described by what it finds (`Calculation.Found`): the text with its variables
filled in, its tree, its value with the texts of the steps to it, and a row for each term, which
continues the rows above it (`TermRow.Continues`). An error occurs at a stage behind others that
went well (`Occurs`), so no two occur in one run. The outcomes of runs are then the ends that `Ends`
lists (`run_writes`), within whatever limits a run has to keep.
-/

import Reckoner.Proofs.CommandLine

namespace Reckoner

variable {settings : Settings}

/-! ### Rows -/

namespace Expr

/-- Whether rows are those of terms, below `n` rows of which the last total is `before`. -/
inductive Accumulates (settings : Settings) (values texts : ℕ) :
    ℕ → Decimal → List Expr → List TermRow → Prop
  | nil {n : ℕ} {before : Decimal} : Accumulates settings values texts n before [] []
  | cons {n : ℕ} {before : Decimal} {term : Expr} {row : TermRow} {terms : List Expr}
      {rows : List TermRow} (hrow : row.Continues settings values texts n before term)
      (hrest : Accumulates settings values texts (n + 1) row.total terms rows) :
      Accumulates settings values texts n before (term :: terms) (row :: rows)

/-- Whether a term has too many levels to be evaluated, or to be printed once it has a value. -/
inductive RunsOut (settings : Settings) (values texts : ℕ) (term : Expr) (span : Span) : Prop
  | value (h : term.evaluate settings values = .error (.tooDeep span))
  | text {x : Decimal} {steps : List Step} (hvalue : term.evaluate settings values = .ok (x, steps))
      (h : term.print texts = .error (.tooDeep span))

variable {values texts : ℕ}

/-- Rows that are added one after the other continue the rows so far. -/
theorem foldlM_addRow_eq_ok_iff {terms : List Expr} {done rows : List TermRow} :
    terms.foldlM (addRow settings values texts) done = .ok rows ↔
      ∃ added, rows = added.reverse ++ done ∧
        Accumulates settings values texts (lastIndex done) (lastTotal done) terms added := by
  induction terms generalizing done with
  | nil =>
    constructor
    · intro h
      exact ⟨[], (Except.ok.inj h).symm, .nil⟩
    · rintro ⟨_, rfl, _ | _⟩
      rfl
  | cons term terms ih =>
    rw [List.foldlM_cons, bind_eq_ok_iff]
    constructor
    · rintro ⟨next, hnext, hrest⟩
      obtain ⟨row, rfl, hrow⟩ := addRow_eq_ok_iff.1 hnext
      obtain ⟨added, rfl, hadded⟩ := ih.1 hrest
      have hindex : lastIndex (row :: done) = lastIndex done + 1 := hrow.index
      rw [hindex] at hadded
      exact ⟨row :: added, by simp, .cons hrow hadded⟩
    · rintro ⟨_, rfl, _ | @⟨_, _, _, row, _, added, hrow, hadded⟩⟩
      rw [← hrow.index] at hadded
      exact ⟨row :: done, addRow_eq_ok_iff.2 ⟨row, rfl, hrow⟩, ih.2 ⟨added, by simp, hadded⟩⟩

/-- **The rows of a tree** are those of its terms, from the first one on. -/
theorem summarize_eq_ok_iff {e : Expr} {rows : List TermRow} :
    e.summarize settings values texts = .ok rows ↔
      ∃ terms, e.terms = .ok terms ∧ Accumulates settings values texts 0 .zero terms rows := by
  rw [summarize, bind_eq_ok_iff]
  refine exists_congr fun terms => and_congr_right fun _ => ?_
  rw [bind_eq_ok_iff]
  constructor
  · rintro ⟨reversed, hfold, h⟩
    obtain ⟨added, rfl, hadded⟩ := foldlM_addRow_eq_ok_iff.1 hfold
    rw [List.append_nil, List.reverse_reverse] at h
    exact Except.ok.inj h ▸ hadded
  · intro h
    refine ⟨rows.reverse, foldlM_addRow_eq_ok_iff.2 ⟨rows, by rw [List.append_nil], h⟩, ?_⟩
    rw [List.reverse_reverse]
    rfl

/-- The error of a term that has too many levels. -/
theorem runsOut_of_addRow {done : List TermRow} {term : Expr} {error : SummaryError}
    (h : addRow settings values texts done term = .error error) (hdepth : error.IsDepth) :
    ∃ span, RunsOut settings values texts term span ∧
      (error = .term (.tooDeep span) ∨ error = .text (.tooDeep span)) := by
  obtain ⟨span, herror⟩ := hdepth
  refine ⟨span, ?_, herror⟩
  obtain h | ⟨⟨x, steps⟩, hvalue, h⟩ := bind_eq_error_iff.1 h
  · obtain ⟨e, he, rfl⟩ := mapError_eq_error_iff.1 h
    obtain h | h := herror <;> cases h
    exact .value he
  obtain h | ⟨total, -, h⟩ := bind_eq_error_iff.1 h
  · obtain ⟨fault, -, rfl⟩ := mapError_eq_error_iff.1 h
    obtain h | h := herror <;> cases h
  obtain h | ⟨text, -, h⟩ := bind_eq_error_iff.1 h
  · obtain ⟨e, he, rfl⟩ := mapError_eq_error_iff.1 h
    obtain h | h := herror <;> cases h
    exact .text (mapError_eq_ok_iff.1 hvalue) he
  · cases h

/-- Behind such a term no row is added; if the total does not exist, that is noticed first. -/
theorem RunsOut.addRow_eq {term : Expr} {span : Span} (h : RunsOut settings values texts term span)
    (done : List TermRow) : ∃ error, addRow settings values texts done term = .error error ∧
      (error.IsDepth → error = .term (.tooDeep span) ∨ error = .text (.tooDeep span)) := by
  cases h with
  | value h => exact ⟨_, bind_eq_error_iff.2 (.inl (mapError_eq_error_iff.2 ⟨_, h, rfl⟩)),
      fun _ => .inl rfl⟩
  | @text x steps hvalue h =>
    cases htotal : (lastTotal done).add x with
    | error fault =>
      refine ⟨.total fault, bind_eq_error_iff.2 (.inr ⟨_, mapError_eq_ok_iff.2 hvalue,
        bind_eq_error_iff.2 (.inl (mapError_eq_error_iff.2 ⟨_, htotal, rfl⟩))⟩), ?_⟩
      rintro ⟨_, h | h⟩ <;> cases h
    | ok total =>
      exact ⟨.text (.tooDeep span), bind_eq_error_iff.2 (.inr ⟨_, mapError_eq_ok_iff.2 hvalue,
        bind_eq_error_iff.2 (.inr ⟨_, mapError_eq_ok_iff.2 htotal,
        bind_eq_error_iff.2 (.inl (mapError_eq_error_iff.2 ⟨_, h, rfl⟩))⟩)⟩), fun _ => .inr rfl⟩

end Expr

/-! ### Calculations -/

namespace Calculation

variable {limits : Limits} {bindings : Bindings} {text : String} {c : Calculation}

/-- What a calculation finds out about a text. -/
structure Found (limits : Limits) (settings : Settings) (bindings : Bindings) (text : String)
    (c : Calculation) : Prop where
  source : ∃ filled, Template.fill bindings text = .ok filled ∧ c.source = Glyph.fold filled
  tree : Expr.ofText c.source limits.reading = .ok c.tree
  steps : ∃ steps, c.tree.evaluate settings limits.evaluation = .ok (c.value, steps) ∧
    List.Forall₂ (fun step text => step.print limits.steps = .ok text) steps c.steps
  rows : ∃ terms, c.tree.terms = .ok terms ∧
    Expr.Accumulates settings limits.termValues limits.termTexts 0 .zero terms c.rows

/-- **A calculation that returns finds everything out**, and one that can find everything out
returns. -/
theorem run_eq_ok_iff :
    run limits settings bindings text = .ok c ↔ Found limits settings bindings text c := by
  constructor
  · intro h
    obtain ⟨filled, hfill, h⟩ := bind_eq_ok_iff.1 h
    obtain ⟨tree, htree, h⟩ := bind_eq_ok_iff.1 h
    obtain ⟨⟨value, steps⟩, hvalue, h⟩ := bind_eq_ok_iff.1 h
    obtain ⟨texts, htexts, h⟩ := bind_eq_ok_iff.1 h
    obtain ⟨rows, hrows, h⟩ := bind_eq_ok_iff.1 h
    rw [← Except.ok.inj h]
    exact ⟨⟨filled, mapError_eq_ok_iff.1 hfill, rfl⟩, mapError_eq_ok_iff.1 htree,
      ⟨steps, mapError_eq_ok_iff.1 hvalue, forall₂_of_mapM (mapError_eq_ok_iff.1 htexts)⟩,
      Expr.summarize_eq_ok_iff.1 (mapError_eq_ok_iff.1 hrows)⟩
  · obtain ⟨source, tree, value, texts, rows⟩ := c
    rintro ⟨⟨filled, hfill, rfl⟩, htree, ⟨steps, hvalue, htexts⟩, hrows⟩
    exact bind_eq_ok_iff.2 ⟨_, mapError_eq_ok_iff.2 hfill,
      bind_eq_ok_iff.2 ⟨_, mapError_eq_ok_iff.2 htree,
      bind_eq_ok_iff.2 ⟨_, mapError_eq_ok_iff.2 hvalue,
      bind_eq_ok_iff.2 ⟨_, mapError_eq_ok_iff.2 (mapM_of_forall₂ htexts),
      bind_eq_ok_iff.2 ⟨_, mapError_eq_ok_iff.2 (Expr.summarize_eq_ok_iff.2 hrows), rfl⟩⟩⟩⟩⟩

end Calculation

namespace CommandLine

variable {limits : Limits} {arguments : Arguments} {input : Input} {folder : Folder}

/-! ### What is shown -/

/-- The text of a row behind its index. -/
def rowText (row : TermRow) : String :=
  row.text ++ " = " ++ row.value.display ++ "  (running total " ++ row.total.display ++ ")"

/-- Indented lines of texts, counted from the number behind `n`. -/
def numbered (n : ℕ) : List String → String
  | [] => ""
  | text :: texts =>
    "  " ++ Digits.toText (n + 1) ++ ". " ++ text ++ "\n" ++ numbered (n + 1) texts

/-- A calculation as it is shown. -/
def shown (options : Options) (c : Calculation) : String :=
  "= " ++ c.value.display ++ "\n" ++
    (if options.showSteps ∧ c.steps ≠ [] then "steps:\n" ++ numbered 0 c.steps else "") ++
    (if options.showTerms then "terms:\n" ++ numbered 0 (c.rows.map rowText) else "")

/-- The lines of the steps are numbered by their places. -/
theorem join_map_stepLine (texts : List String) (n : ℕ) :
    String.join ((texts.zipIdx n).map fun p => stepLine p ++ "\n") = numbered n texts := by
  induction texts generalizing n with
  | nil => rfl
  | cons text texts ih =>
    rw [List.zipIdx_cons, List.map_cons, String.join_cons, ih, numbered, stepLine]

/-- Rows that continue each other have their places as indices. -/
theorem join_map_termLine {settings : Settings} {values texts n : ℕ} {before : Decimal}
    {terms : List Expr} {rows : List TermRow}
    (h : Expr.Accumulates settings values texts n before terms rows) :
    String.join (rows.map fun row => termLine row ++ "\n") = numbered n (rows.map rowText) := by
  induction h with
  | nil => rfl
  | cons hrow _ ih =>
    rw [List.map_cons, List.map_cons, String.join_cons, ih, numbered, termLine, hrow.index, rowText]
    simp only [String.append_assoc]

/-- **What is written about a calculation** is the calculation as it is shown. -/
theorem showResult_eq_shown {settings : Settings} {bindings : Bindings} {text : String}
    {c : Calculation} (h : c.Found limits settings bindings text) (options : Options) :
    showResult c options = shown options c := by
  obtain ⟨_, -, hrows⟩ := h.rows
  have hsteps : ((options.showSteps && !c.steps.isEmpty) = true) =
      (options.showSteps = true ∧ c.steps ≠ []) := by
    rw [Bool.and_eq_true, Bool.not_eq_true', List.isEmpty_eq_false_iff]
  rw [showResult, resultLines, shown, ← join_map_stepLine, ← join_map_termLine hrows]
  simp only [hsteps, List.map_append, List.map_cons, String.join_append, String.join_cons]
  split_ifs <;> simp [List.map_map, Function.comp_def]

/-! ### Errors -/

/-- The errors that are reported. Errors about a place hold the folded text that it is in, except
those that come up behind the value. -/
inductive Failure where
  | argument (e : ArgumentError)
  | file (e : FileError)
  | template (e : TemplateError)
  | text (e : Expr.TextError) (source : String)
  | evaluation (e : EvalError) (source : String)
  /-- A step or a term is nested too deeply. -/
  | unprinted (span : Span)

namespace Failure

/-- The exit status that an error leads to. -/
def exit : Failure → ℕ
  | file _ | template _ | text .. => 1
  | argument _ | evaluation .. | unprinted _ => 2

/-- How an error is reported, if it has a report. -/
def text? : Failure → Option String
  | argument e => some ("error: " ++ e.message)
  | file e => some ("error: " ++ e.message)
  | template e => some e.report.text
  | text e source => (e.report? source).map Report.text
  | evaluation e source => (e.report? source).map Report.text
  | unprinted span => some (Report.text ⟨.evaluation, Expr.tooDeep, span, ""⟩)

end Failure

/-- Which error occurs in a run, and where. Each stage presupposes those before it. -/
inductive Occurs (limits : Limits) (arguments : Arguments) (input : Input) (folder : Folder) :
    Failure → Prop
  | argument {e : ArgumentError}
      (hoptions : Options.resolve limits arguments input folder = .error (.argument e)) :
      Occurs limits arguments input folder (.argument e)
  | file {e : FileError}
      (hoptions : Options.resolve limits arguments input folder = .error (.file e)) :
      Occurs limits arguments input folder (.file e)
  /-- The file of variables has a malformed definition. -/
  | definitions {e : TemplateError}
      (hoptions : Options.resolve limits arguments input folder = .error (.template e)) :
      Occurs limits arguments input folder (.template e)
  | template {options : Options} {e : TemplateError}
      (hoptions : Options.resolve limits arguments input folder = .ok options)
      (hfill : Template.fill options.bindings options.expression = .error e) :
      Occurs limits arguments input folder (.template e)
  | text {options : Options} {filled : String} {e : Expr.TextError}
      (hoptions : Options.resolve limits arguments input folder = .ok options)
      (hfill : Template.fill options.bindings options.expression = .ok filled)
      (hread : Expr.ofText (Glyph.fold filled) limits.reading = .error e) :
      Occurs limits arguments input folder (.text e (Glyph.fold filled))
  | evaluation {options : Options} {filled : String} {tree : Expr} {e : EvalError}
      (hoptions : Options.resolve limits arguments input folder = .ok options)
      (hfill : Template.fill options.bindings options.expression = .ok filled)
      (hread : Expr.ofText (Glyph.fold filled) limits.reading = .ok tree)
      (hvalue : tree.evaluate options.settings limits.evaluation = .error e) :
      Occurs limits arguments input folder (.evaluation e (Glyph.fold filled))
  /-- A step is the first one that takes too many levels. -/
  | step {options : Options} {filled : String} {tree : Expr} {value : Decimal}
      {before after : List Step} {step : Step} {span : Span}
      (hoptions : Options.resolve limits arguments input folder = .ok options)
      (hfill : Template.fill options.bindings options.expression = .ok filled)
      (hread : Expr.ofText (Glyph.fold filled) limits.reading = .ok tree)
      (hvalue : tree.evaluate options.settings limits.evaluation =
        .ok (value, before ++ step :: after))
      (hbefore : ∀ earlier ∈ before, ∃ text, earlier.print limits.steps = .ok text)
      (hstep : step.print limits.steps = .error (.tooDeep span)) :
      Occurs limits arguments input folder (.unprinted span)
  /-- A term is the first one that has too many levels. -/
  | term {options : Options} {filled : String} {tree : Expr} {value : Decimal} {steps : List Step}
      {before after : List Expr} {term : Expr} {rows : List TermRow} {span : Span}
      (hoptions : Options.resolve limits arguments input folder = .ok options)
      (hfill : Template.fill options.bindings options.expression = .ok filled)
      (hread : Expr.ofText (Glyph.fold filled) limits.reading = .ok tree)
      (hvalue : tree.evaluate options.settings limits.evaluation = .ok (value, steps))
      (hsteps : ∀ step ∈ steps, ∃ text, step.print limits.steps = .ok text)
      (hterms : tree.terms = .ok (before ++ term :: after))
      (hrows : Expr.Accumulates options.settings limits.termValues limits.termTexts 0 .zero before
        rows)
      (hterm : Expr.RunsOut options.settings limits.termValues limits.termTexts term span) :
      Occurs limits arguments input folder (.unprinted span)

/-- The error that is reported if there are no options, unless the run escapes. -/
def Failure.ofOptions? : OptionsError → Option Failure
  | .argument e => some (argument e)
  | .template e => some (template e)
  | .file e => some (file e)
  | .configuration _ | .value _ | .nullInPath | .input => none

/-- The error that is reported if a calculation fails. -/
def Failure.ofCalculation : CalculationError → Failure
  | .template e => template e
  | .text e source => text e source
  | .evaluation e source => evaluation e source
  | .step e => unprinted ((e.report?.map Report.span).getD Span.none)
  | .summary e => unprinted ((e.report?.map Report.span).getD Span.none)

/-- The exit status tells whether a calculation failed in reading. -/
theorem Failure.exit_ofCalculation (e : CalculationError) :
    (ofCalculation e).exit = if e.isReading then 1 else 2 := by
  cases e <;> rfl

/-- What is reported about a calculation is the report of its error. -/
theorem Failure.text?_ofCalculation {settings : Settings} {bindings : Bindings} {text : String}
    {e : CalculationError} (h : Calculation.run limits settings bindings text = .error e) :
    (ofCalculation e).text? = e.report?.map Report.text := by
  cases Calculation.run_eq_error_iff.1 h with
  | summary _ _ _ _ _ hdepth => obtain ⟨span, rfl | rfl⟩ := hdepth <;> rfl
  | _ => rfl

/-- A term behind rows that were added is where a summary ends, if it has too many levels. -/
theorem exists_summarize_error {settings : Settings} {source : String} {tree : Expr}
    {value : Decimal} {steps : List Step} {before after : List Expr} {term : Expr}
    {rows : List TermRow} {span : Span}
    (hread : Expr.ofText source limits.reading = .ok tree)
    (hvalue : tree.evaluate settings limits.evaluation = .ok (value, steps))
    (hterms : tree.terms = .ok (before ++ term :: after))
    (hrows : Expr.Accumulates settings limits.termValues limits.termTexts 0 .zero before rows)
    (hterm : Expr.RunsOut settings limits.termValues limits.termTexts term span) :
    ∃ error, tree.summarize settings limits.termValues limits.termTexts = .error error ∧
      (error = .term (.tooDeep span) ∨ error = .text (.tooDeep span)) := by
  obtain ⟨error, herror, hdepth⟩ := hterm.addRow_eq rows.reverse
  have hfold := Expr.foldlM_addRow_eq_ok_iff.2 ⟨rows, (List.append_nil _).symm, hrows⟩
  have hsummary : tree.summarize settings limits.termValues limits.termTexts = .error error :=
    bind_eq_error_iff.2 (.inr ⟨_, hterms, bind_eq_error_iff.2 (.inl (foldlM_eq_error_iff.2
      ⟨before, term, after, rows.reverse, rfl, hfold, herror⟩))⟩)
  exact ⟨error, hsummary, hdepth (Expr.summarize_error hread hvalue hsummary)⟩

namespace Occurs

variable {failure other : Failure} {options : Options}

/-- An error that occurs is what the options or the calculation end with. -/
theorem cases (h : Occurs limits arguments input folder failure) :
    (∃ e, Options.resolve limits arguments input folder = .error e ∧
      Failure.ofOptions? e = some failure) ∨
    ∃ options e, Options.resolve limits arguments input folder = .ok options ∧
      Calculation.run limits options.settings options.bindings options.expression = .error e ∧
        Failure.ofCalculation e = failure := by
  cases h with
  | argument hoptions | file hoptions | definitions hoptions => exact .inl ⟨_, hoptions, rfl⟩
  | template hoptions hfill =>
    exact .inr ⟨_, _, hoptions, Calculation.run_eq_error_iff.2 (.template hfill), rfl⟩
  | text hoptions hfill hread =>
    exact .inr ⟨_, _, hoptions, Calculation.run_eq_error_iff.2 (.text hfill hread), rfl⟩
  | evaluation hoptions hfill hread hvalue =>
    exact .inr ⟨_, _, hoptions,
      Calculation.run_eq_error_iff.2 (.evaluation hfill hread hvalue), rfl⟩
  | @step _ _ _ _ before after step span hoptions hfill hread hvalue hbefore hstep =>
    have hsteps : Step.printAll (before ++ step :: after) limits.steps = .error (.tooDeep span) :=
      mapM_eq_error_iff.2 ⟨before, step, after, rfl, hbefore, hstep⟩
    exact .inr ⟨_, _, hoptions,
      Calculation.run_eq_error_iff.2 (.step hfill hread hvalue hsteps), rfl⟩
  | term hoptions hfill hread hvalue hsteps hterms hrows hterm =>
    obtain ⟨texts, htexts⟩ := exists_mapM hsteps
    obtain ⟨error, hsummary, herror⟩ := exists_summarize_error hread hvalue hterms hrows hterm
    have hrun := Calculation.run_eq_error_iff.2
      (.summary hfill hread hvalue htexts hsummary ⟨_, herror⟩)
    obtain rfl | rfl := herror <;> exact .inr ⟨_, _, hoptions, hrun, rfl⟩

/-- An error of the options occurs, if it is reported. -/
theorem of_options {e : OptionsError}
    (hoptions : Options.resolve limits arguments input folder = .error e)
    (h : Failure.ofOptions? e = some failure) : Occurs limits arguments input folder failure := by
  cases e with
  | argument => cases h; exact .argument hoptions
  | template => cases h; exact .definitions hoptions
  | file => cases h; exact .file hoptions
  | _ => cases h

/-- An error of the calculation occurs. -/
theorem of_run {e : CalculationError}
    (hoptions : Options.resolve limits arguments input folder = .ok options)
    (h : Calculation.run limits options.settings options.bindings options.expression = .error e) :
    Occurs limits arguments input folder (.ofCalculation e) := by
  cases Calculation.run_eq_error_iff.1 h with
  | template hfill => exact .template hoptions hfill
  | text hfill hread => exact .text hoptions hfill hread
  | evaluation hfill hread hvalue => exact .evaluation hoptions hfill hread hvalue
  | step hfill hread hvalue hsteps =>
    obtain ⟨before, step, after, rfl, hbefore, hstep⟩ := mapM_eq_error_iff.1 hsteps
    exact .step hoptions hfill hread hvalue hbefore hstep
  | @summary _ _ _ steps _ _ hfill hread hvalue hsteps hrows hdepth =>
    have htexts : ∀ step ∈ steps, ∃ text, step.print limits.steps = .ok text :=
      forall_of_forall₂ (forall₂_of_mapM hsteps) fun _ _ htext => ⟨_, htext⟩
    obtain ⟨_, -, hderives, -⟩ := Expr.ofText_eq_ok_iff.1 hread
    obtain herror | ⟨terms, hterms, hrows⟩ := bind_eq_error_iff.1 hrows
    · cases (Expr.terms_eq hderives.wellShaped).symm.trans herror
    obtain hfold | ⟨_, -, hrows⟩ := bind_eq_error_iff.1 hrows
    · obtain ⟨before, term, after, reversed, rfl, hfold, hterm⟩ := foldlM_eq_error_iff.1 hfold
      obtain ⟨rows, rfl, hadded⟩ := Expr.foldlM_addRow_eq_ok_iff.1 hfold
      obtain ⟨span, hruns, rfl | rfl⟩ := Expr.runsOut_of_addRow hterm hdepth <;>
        exact .term hoptions hfill hread hvalue htexts hterms hadded hruns
    · cases hrows

/-- No two errors occur in one run. -/
theorem unique (h : Occurs limits arguments input folder failure)
    (hother : Occurs limits arguments input folder other) : failure = other := by
  obtain ⟨e, hoptions, hfailure⟩ | ⟨options, e, hoptions, hrun, rfl⟩ := h.cases
  · obtain ⟨e', hoptions', hfailure'⟩ | ⟨_, _, hoptions', -⟩ := hother.cases
    · cases hoptions.symm.trans hoptions'
      exact Option.some.inj (hfailure.symm.trans hfailure')
    · cases hoptions.symm.trans hoptions'
  · obtain ⟨_, hoptions', -⟩ | ⟨options', e', hoptions', hrun', rfl⟩ := hother.cases
    · cases hoptions.symm.trans hoptions'
    · cases hoptions.symm.trans hoptions'
      cases hrun.symm.trans hrun'
      rfl

end Occurs

/-! ### Ends of runs -/

/-- How a run ends that does not escape: with a calculation, or with the error that occurs. -/
inductive Ends (limits : Limits) (arguments : Arguments) (input : Input) (folder : Folder) :
    Outcome → Prop
  | shown {options : Options} {c : Calculation} {stderr : String}
      (hoptions : Options.resolve limits arguments input folder = .ok options)
      (hfound : c.Found limits options.settings options.bindings options.expression)
      (hstderr : if arguments.debug then c.tree.outline? limits.outline = some stderr
        else stderr = "") :
      Ends limits arguments input folder ⟨0, shown options c, stderr⟩
  | reported {failure : Failure} {text : String}
      (hoccurs : Occurs limits arguments input folder failure) (htext : failure.text? = some text) :
      Ends limits arguments input folder ⟨failure.exit, "", text ++ "\n"⟩

/-- An outline that is made is that of the tree, or nothing if none is asked for. -/
theorem outlineFor_eq_ok_iff {options : Options} {tree : Expr} {text : String} :
    outlineFor limits options tree = .ok text ↔
      if options.debug then tree.outline? limits.outline = some text else text = "" := by
  rw [outlineFor]
  split_ifs
  · cases tree.outline? limits.outline <;> simp
  · exact ⟨fun h => (Except.ok.inj h).symm, fun h => congrArg _ h.symm⟩

/-- An error of the calculation is reported as what it is an error of. -/
theorem Options.exists_report {options : Options} {e : CalculationError}
    (hoptions : Options.resolve limits arguments input folder = .ok options)
    (h : Calculation.run limits options.settings options.bindings options.expression = .error e) :
    ∃ text, (Failure.ofCalculation e).text? = some text ∧
      options.run limits = .ok ⟨(Failure.ofCalculation e).exit, "", text ++ "\n"⟩ := by
  have hrounding := (resolve_eq_ok hoptions).1
  obtain ⟨report, hreport, hrun⟩ := run_of_error (hrounding ▸ Option.some_ne_none _) h
  rw [Failure.text?_ofCalculation h, Failure.exit_ofCalculation]
  exact ⟨report.text, congrArg _ hreport, hrun⟩

section Runs

variable {argv : List String} {outcome : Outcome} (hargv : Arguments.read argv = .ok arguments)

include hargv

/-- **An error that occurs is reported**, and ends the run with its exit status. -/
theorem Occurs.run_eq {failure : Failure} (h : Occurs limits arguments input folder failure) :
    ∃ text, failure.text? = some text ∧
      run limits argv input folder = .ok ⟨failure.exit, "", text ++ "\n"⟩ := by
  simp only [run, hargv]
  obtain ⟨e, hoptions, hfailure⟩ | ⟨options, e, hoptions, hrun, rfl⟩ := h.cases
  · rw [hoptions]
    cases e <;> cases hfailure <;> exact ⟨_, rfl, rfl⟩
  · rw [hoptions]
    exact Options.exists_report hoptions hrun

/-- A run that has an outcome has resolved its options and calculated, or an error occurred. -/
theorem found_or_occurs (h : run limits argv input folder = .ok outcome) :
    (∃ options c, Options.resolve limits arguments input folder = .ok options ∧
      Calculation.run limits options.settings options.bindings options.expression = .ok c) ∨
    ∃ failure, Occurs limits arguments input folder failure := by
  simp only [run, hargv] at h
  cases hresolve : Options.resolve limits arguments input folder with
  | error e =>
    rw [hresolve] at h
    cases hfailure : Failure.ofOptions? e with
    | some failure => exact .inr ⟨failure, .of_options hresolve hfailure⟩
    | none => cases e <;> cases hfailure <;> cases h
  | ok options =>
    cases hrun : Calculation.run limits options.settings options.bindings options.expression with
    | ok c => exact .inl ⟨options, c, rfl, hrun⟩
    | error e => exact .inr ⟨_, .of_run hresolve hrun⟩

/-- A run that calculated shows the calculation, and its outline if that is asked for. -/
theorem run_eq_ok_iff_of_found {options : Options} {c : Calculation}
    (hoptions : Options.resolve limits arguments input folder = .ok options)
    (hfound : c.Found limits options.settings options.bindings options.expression) :
    run limits argv input folder = .ok outcome ↔ ∃ stderr,
      (if arguments.debug then c.tree.outline? limits.outline = some stderr else stderr = "") ∧
        outcome = ⟨0, shown options c, stderr⟩ := by
  simp only [run, hargv, hoptions, Options.run_of_ok (Calculation.run_eq_ok_iff.2 hfound),
    showResult_eq_shown hfound, ← (resolve_eq_ok hoptions).2, ← outlineFor_eq_ok_iff]
  cases outlineFor limits options c.tree with
  | error escape => simp [Except.map]
  | ok text => simp [Except.map, eq_comm]

/-- **The outcomes of runs** are the ends of runs. -/
theorem run_eq_ok_iff :
    run limits argv input folder = .ok outcome ↔ Ends limits arguments input folder outcome := by
  constructor
  · intro h
    obtain ⟨options, c, hoptions, hrun⟩ | ⟨failure, hoccurs⟩ := found_or_occurs hargv h
    · have hfound := Calculation.run_eq_ok_iff.1 hrun
      obtain ⟨stderr, hstderr, rfl⟩ := (run_eq_ok_iff_of_found hargv hoptions hfound).1 h
      exact .shown hoptions hfound hstderr
    · obtain ⟨text, htext, hrun⟩ := hoccurs.run_eq hargv
      rw [← Except.ok.inj (hrun.symm.trans h)]
      exact .reported hoccurs htext
  · intro h
    cases h with
    | shown hoptions hfound hstderr =>
      exact (run_eq_ok_iff_of_found hargv hoptions hfound).2 ⟨_, hstderr, rfl⟩
    | reported hoccurs htext =>
      obtain ⟨text, htext', hrun⟩ := hoccurs.run_eq hargv
      rwa [← Option.some.inj (htext.symm.trans htext')] at hrun

/-- A run in which an error occurs has the exit status of the error. -/
theorem Occurs.exit_eq {failure : Failure} (h : Occurs limits arguments input folder failure)
    (hrun : run limits argv input folder = .ok outcome) : outcome.exit = failure.exit := by
  obtain ⟨_, -, hreported⟩ := h.run_eq hargv
  rw [← Except.ok.inj (hreported.symm.trans hrun)]

/-- The exit status is zero exactly if the options are resolved and the calculation returns. -/
theorem exit_eq_zero_iff (hrun : run limits argv input folder = .ok outcome) :
    outcome.exit = 0 ↔ ∃ options c, Options.resolve limits arguments input folder = .ok options ∧
      Calculation.run limits options.settings options.bindings options.expression = .ok c := by
  constructor
  · intro hexit
    obtain hfound | ⟨failure, hoccurs⟩ := found_or_occurs hargv hrun
    · exact hfound
    · rw [hoccurs.exit_eq hargv hrun] at hexit
      cases failure <;> cases hexit
  · rintro ⟨options, c, hoptions, hc⟩
    obtain ⟨_, -, rfl⟩ := (run_eq_ok_iff_of_found hargv hoptions
      (Calculation.run_eq_ok_iff.1 hc)).1 hrun
    rfl

/-- Any other exit status is that of the error that occurs. -/
theorem exit_eq_succ_iff (hrun : run limits argv input folder = .ok outcome) (n : ℕ) :
    outcome.exit = n + 1 ↔
      ∃ failure, Occurs limits arguments input folder failure ∧ failure.exit = n + 1 := by
  constructor
  · intro hexit
    obtain hfound | ⟨failure, hoccurs⟩ := found_or_occurs hargv hrun
    · rw [(exit_eq_zero_iff hargv hrun).2 hfound] at hexit
      cases hexit
    · exact ⟨failure, hoccurs, (hoccurs.exit_eq hargv hrun).symm.trans hexit⟩
  · rintro ⟨failure, hoccurs, hexit⟩
    exact (hoccurs.exit_eq hargv hrun).trans hexit

end Runs

/-- **What a run writes agrees with what came of it.** Where the arguments are accepted, the
outcomes of a run are its ends. The exit status is zero exactly if the options are resolved and the
calculation returns, one exactly if an error of a file, a template or a text occurs, and two exactly
if one of an argument or of the evaluation does, or a step or a term is nested too deeply for the
limits. At most one error occurs, and one that does ends the run with nothing on standard output and
its report on standard error. -/
theorem run_writes {argv : List String} (hargv : Arguments.read argv = .ok arguments)
    (limits : Limits) (input : Input) (folder : Folder) :
    (∀ outcome, run limits argv input folder = .ok outcome ↔
      Ends limits arguments input folder outcome) ∧
    (∀ outcome, run limits argv input folder = .ok outcome →
      (outcome.exit = 0 ↔ ∃ options c, Options.resolve limits arguments input folder = .ok options ∧
        Calculation.run limits options.settings options.bindings options.expression = .ok c) ∧
      (outcome.exit = 1 ↔ (∃ e, Occurs limits arguments input folder (.file e)) ∨
        (∃ e, Occurs limits arguments input folder (.template e)) ∨
        ∃ e source, Occurs limits arguments input folder (.text e source)) ∧
      (outcome.exit = 2 ↔ (∃ e, Occurs limits arguments input folder (.argument e)) ∨
        (∃ e source, Occurs limits arguments input folder (.evaluation e source)) ∨
        ∃ span, Occurs limits arguments input folder (.unprinted span))) ∧
    ∀ failure, Occurs limits arguments input folder failure →
      (∀ other, Occurs limits arguments input folder other → other = failure) ∧
      ∃ text, failure.text? = some text ∧
        run limits argv input folder = .ok ⟨failure.exit, "", text ++ "\n"⟩ := by
  refine ⟨fun outcome => run_eq_ok_iff hargv, fun outcome hrun => ⟨exit_eq_zero_iff hargv hrun,
    (exit_eq_succ_iff hargv hrun 0).trans ?_, (exit_eq_succ_iff hargv hrun 1).trans ?_⟩,
    fun failure h => ⟨fun other hother => hother.unique h, h.run_eq hargv⟩⟩
  · constructor
    · rintro ⟨failure, hoccurs, hexit⟩
      cases failure with
      | file e => exact .inl ⟨e, hoccurs⟩
      | template e => exact .inr (.inl ⟨e, hoccurs⟩)
      | text e source => exact .inr (.inr ⟨e, source, hoccurs⟩)
      | _ => cases hexit
    · rintro (⟨e, hoccurs⟩ | ⟨e, hoccurs⟩ | ⟨e, source, hoccurs⟩) <;> exact ⟨_, hoccurs, rfl⟩
  · constructor
    · rintro ⟨failure, hoccurs, hexit⟩
      cases failure with
      | argument e => exact .inl ⟨e, hoccurs⟩
      | evaluation e source => exact .inr (.inl ⟨e, source, hoccurs⟩)
      | unprinted span => exact .inr (.inr ⟨span, hoccurs⟩)
      | _ => cases hexit
    · rintro (⟨e, hoccurs⟩ | ⟨e, source, hoccurs⟩ | ⟨span, hoccurs⟩) <;> exact ⟨_, hoccurs, rfl⟩

/-- A run that shows steps, terms and the outline of a difference. -/
theorem run_writes_difference :
    let argv := ["1 - 2 * 3", "--terms", "--debug"]
    let arguments : Arguments := { expression := some "1 - 2 * 3", terms := true, debug := true }
    let outcome : Outcome := ⟨0, "= -5\nsteps:\n  1. 2 * 3 = 6\n  2. 1 - 6 = -5\n" ++
      "terms:\n  1. 1 = 1  (running total 1)\n  2. -(2 * 3) = -6  (running total -5)\n",
      "Binary '-' [0:9]\n  Number 1 [0:1]\n  Binary '*' [4:9]\n" ++
      "    Number 2 [4:5]\n    Number 3 [8:9]\n"⟩
    Arguments.read argv = .ok arguments ∧ Ends {} arguments (.text "") ⟨[], []⟩ outcome ∧
      ∃ options c, Options.resolve {} arguments (.text "") ⟨[], []⟩ = .ok options ∧
        Calculation.run {} options.settings options.bindings options.expression = .ok c := by
  intro argv arguments outcome
  have hargv : Arguments.read argv = .ok arguments := by decide +kernel
  have hrun : run {} argv (.text "") ⟨[], []⟩ = .ok outcome := by decide +kernel
  obtain ⟨hends, hexit, -⟩ := run_writes hargv {} (.text "") ⟨[], []⟩
  exact ⟨hargv, (hends _).1 hrun, (hexit _ hrun).1.1 rfl⟩

end CommandLine
end Reckoner
