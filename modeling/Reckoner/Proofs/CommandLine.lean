/-
# How a run ends

A run of accepted arguments ends with exit 0, 1 or 2, unless it escapes. It escapes in five ways
(`Escapes`): the configuration is not read as a document, a variable in it has a value without a
text, the path of the file of variables cannot be looked up, the expression is to be read from a
standard input that holds no text, or a tree is too high for the outline that was asked for.
Everything else that can go wrong is reported (`run_exit`), however deeply a run may descend; of the
calculation in particular nothing escapes, since each of its errors has a report.
-/

import Reckoner.CommandLine.Run
import Reckoner.Proofs.Calculation

namespace Reckoner
namespace CommandLine

variable {limits : Limits} {arguments : Arguments} {input : Input} {folder : Folder}

/-- The file in which the configuration is looked for. -/
def Arguments.configPath (arguments : Arguments) : String :=
  (givenPath arguments.configFile).getD configName

/-- The ways in which a run does not end with an exit status. Each one presupposes that the stages
before it went well. -/
inductive Escapes (limits : Limits) (arguments : Arguments) (input : Input) (folder : Folder) :
    Escape → Prop
  /-- The configuration is not read as a document. -/
  | configuration {text : String} {e : Toml.Error}
      (hfile : folder.read arguments.configPath = .ok text)
      (hread : Toml.read limits.documents text = .error e) :
      Escapes limits arguments input folder (.configuration e)
  /-- A variable of the configuration is the first one that has no text. -/
  | value {config before after : Toml.Table} {name : String} {value : Toml.Value}
      {e : Toml.Value.TextError}
      (hconfig : readConfiguration limits folder arguments.configFile = .ok config)
      (hvariables : (config.table? "variables").getD [] = before ++ (name, value) :: after)
      (hbefore : ∀ entry ∈ before, ∃ text, entry.2.toText limits.values = .ok text)
      (hvalue : value.toText limits.values = .error e) :
      Escapes limits arguments input folder (.value e)
  /-- The path of the file of variables holds a character of code point zero. -/
  | nullInPath {config : Toml.Table} {bindings : Bindings} {path : String}
      (hconfig : readConfiguration limits folder arguments.configFile = .ok config)
      (hvariables : configuredVariables limits config = .ok bindings)
      (hpath : givenPath arguments.varsFile = some path) (hnull : '\x00' ∈ path.toList) :
      Escapes limits arguments input folder .nullInPath
  /-- The expression is to be read from standard input, where no text is. With a text there the
  options would be resolved. -/
  | input {text : String} {options : Options} (hreads : arguments.readsInput)
      (hinput : input = .undecodable)
      (hoptions : Options.resolve limits arguments (.text text) folder = .ok options) :
      Escapes limits arguments input folder .input
  /-- The outline is asked for, and the tree is too high. -/
  | outline {options : Options} {c : Calculation}
      (hoptions : Options.resolve limits arguments input folder = .ok options)
      (hdebug : options.debug)
      (hrun : Calculation.run limits options.settings options.bindings options.expression = .ok c)
      (hheight : limits.outline < c.tree.height) :
      Escapes limits arguments input folder .outline

/-! ### Options -/

/-- No configuration is read exactly if there is a text that is no document, or a name too long. -/
theorem readConfiguration_eq_error_iff {e : OptionsError} :
    readConfiguration limits folder arguments.configFile = .error e ↔
      (∃ text error, folder.read arguments.configPath = .ok text ∧
        Toml.read limits.documents text = .error error ∧ e = .configuration error) ∨
      ∃ path, folder.read arguments.configPath = .error (.nameTooLong path) ∧
        e = .file (.nameTooLong path) := by
  rw [readConfiguration, ← Arguments.configPath]
  constructor
  · intro h
    split at h
    · rename_i text htext
      obtain ⟨error, herror, rfl⟩ := mapError_eq_error_iff.1 h
      exact .inl ⟨text, error, htext, herror, rfl⟩
    · rename_i path hpath
      exact .inr ⟨path, hpath, (Except.error.inj h).symm⟩
    · cases h
  · rintro (⟨text, error, htext, herror, rfl⟩ | ⟨path, hpath, rfl⟩)
    · simp only [htext]
      exact mapError_eq_error_iff.2 ⟨error, herror, rfl⟩
    · simp only [hpath]

/-- The variables of a configuration are refused for the first value without a text. -/
theorem configuredVariables_eq_error_iff {config : Toml.Table} {e : OptionsError} :
    configuredVariables limits config = .error e ↔ ∃ before name value after error,
      (config.table? "variables").getD [] = before ++ (name, value) :: after ∧
        (∀ entry ∈ before, ∃ text, entry.2.toText limits.values = .ok text) ∧
          value.toText limits.values = .error error ∧ e = .value error := by
  have hok (entry : String × Toml.Value) :
      (∃ b, ((entry.2.toText limits.values).map (entry.1, ·)).mapError OptionsError.value = .ok b) ↔
        ∃ text, entry.2.toText limits.values = .ok text := by
    cases entry.2.toText limits.values <;> simp [Except.map, Except.mapError]
  have herror (entry : String × Toml.Value) :
      ((entry.2.toText limits.values).map (entry.1, ·)).mapError OptionsError.value = .error e ↔
        ∃ error, entry.2.toText limits.values = .error error ∧ e = .value error := by
    cases entry.2.toText limits.values <;> simp [Except.map, Except.mapError, eq_comm]
  rw [configuredVariables, mapM_eq_error_iff]
  constructor
  · rintro ⟨before, entry, after, hentries, hbefore, h⟩
    obtain ⟨error, hvalue, rfl⟩ := (herror entry).1 h
    exact ⟨before, entry.1, entry.2, after, error, hentries,
      fun entry hmem => (hok entry).1 (hbefore entry hmem), hvalue, rfl⟩
  · rintro ⟨before, name, value, after, error, hentries, hbefore, hvalue, rfl⟩
    exact ⟨before, (name, value), after, hentries,
      fun entry hmem => (hok entry).2 (hbefore entry hmem),
      (herror (name, value)).2 ⟨error, hvalue, rfl⟩⟩

/-- The file of variables is refused for a definition, as a file, or for a zero in its path. -/
theorem fileVariables_cases {path : Option String} {e : OptionsError}
    (h : fileVariables folder path = .error e) :
    (∃ error, e = .template error) ∨ (∃ error, e = .file error) ∨
      e = .nullInPath ∧ ∃ given, givenPath path = some given ∧ '\x00' ∈ given.toList := by
  rw [fileVariables] at h
  split at h
  · cases h
  · rename_i given hgiven
    split_ifs at h with hnull
    · cases h
      exact .inr (.inr ⟨rfl, given, hgiven, List.contains_iff_mem.1 hnull⟩)
    · obtain h | ⟨text, -, h⟩ := bind_eq_error_iff.1 h
      · obtain ⟨error, -, rfl⟩ := mapError_eq_error_iff.1 h
        exact .inr (.inl ⟨error, rfl⟩)
      · obtain ⟨error, -, rfl⟩ := mapError_eq_error_iff.1 h
        exact .inl ⟨error, rfl⟩

/-- The expression is there unless it is to be read from standard input, where no text is. -/
theorem expressionOr_eq_error_iff {e : OptionsError} : arguments.expressionOr input = .error e ↔
    arguments.readsInput ∧ input = .undecodable ∧ e = .input := by
  rw [Arguments.expressionOr, Arguments.readsInput]
  cases arguments.expression.filter (· != "-") <;> cases input <;> simp [Input.read, eq_comm]

/-- The text on standard input is the expression where that is read. -/
theorem expressionOr_text (hreads : arguments.readsInput) (text : String) :
    arguments.expressionOr (.text text) = .ok text := by
  rw [Arguments.readsInput, Option.isNone_iff_eq_none] at hreads
  rw [Arguments.expressionOr, hreads]
  rfl

/-- That standard input holds no text is noticed behind everything else. -/
theorem resolve_undecodable (hreads : arguments.readsInput) (text : String) :
    Options.resolve limits arguments .undecodable folder =
      Options.resolve limits arguments (.text text) folder >>= fun _ => .error .input := by
  have hundecodable := expressionOr_eq_error_iff.2 ⟨hreads, rfl, rfl⟩
  simp only [Options.resolve, bind_assoc, hundecodable, expressionOr_text hreads]
  rfl

/-- **Options that cannot be resolved** are reported, or the run escapes. -/
theorem resolve_error {e : OptionsError}
    (h : Options.resolve limits arguments input folder = .error e) :
    (∃ exit text, (exit = 1 ∨ exit = 2) ∧ e.outcome = .ok (reported exit text)) ∨
      ∃ escape, e.outcome = .error escape ∧ Escapes limits arguments input folder escape := by
  obtain h | ⟨config, hconfig, h⟩ := bind_eq_error_iff.1 h
  · obtain ⟨text, error, htext, hread, rfl⟩ | ⟨path, -, rfl⟩ := readConfiguration_eq_error_iff.1 h
    · exact .inr ⟨_, rfl, .configuration htext hread⟩
    · exact .inl ⟨1, _, .inl rfl, rfl⟩
  obtain h | ⟨bindings, hbindings, h⟩ := bind_eq_error_iff.1 h
  · obtain ⟨_, _, _, _, _, hentries, hbefore, hvalue, rfl⟩ := configuredVariables_eq_error_iff.1 h
    exact .inr ⟨_, rfl, .value hconfig hentries hbefore hvalue⟩
  obtain h | ⟨defined, hdefined, h⟩ := bind_eq_error_iff.1 h
  · obtain ⟨error, rfl⟩ | ⟨error, rfl⟩ | ⟨rfl, path, hpath, hnull⟩ := fileVariables_cases h
    · exact .inl ⟨1, _, .inl rfl, rfl⟩
    · exact .inl ⟨1, _, .inl rfl, rfl⟩
    · exact .inr ⟨_, rfl, .nullInPath hconfig hbindings hpath hnull⟩
  obtain h | ⟨assigned, hassigned, h⟩ := bind_eq_error_iff.1 h
  · obtain ⟨error, -, rfl⟩ := mapError_eq_error_iff.1 h
    exact .inl ⟨2, _, .inr rfl, rfl⟩
  obtain h | ⟨settings, hsettings, h⟩ := bind_eq_error_iff.1 h
  · obtain ⟨error, -, rfl⟩ := mapError_eq_error_iff.1 h
    exact .inl ⟨2, _, .inr rfl, rfl⟩
  obtain h | ⟨_, -, h⟩ := bind_eq_error_iff.1 h
  · obtain ⟨hreads, hinput, rfl⟩ := expressionOr_eq_error_iff.1 h
    have htext := expressionOr_text hreads ""
    exact .inr ⟨_, rfl, .input hreads hinput (bind_eq_ok_iff.2 ⟨_, hconfig,
      bind_eq_ok_iff.2 ⟨_, hbindings, bind_eq_ok_iff.2 ⟨_, hdefined, bind_eq_ok_iff.2 ⟨_, hassigned,
      bind_eq_ok_iff.2 ⟨_, hsettings, bind_eq_ok_iff.2 ⟨_, htext, rfl⟩⟩⟩⟩⟩⟩)⟩
  · cases h

/-- Settings that are accepted keep the rounding mode. -/
theorem settings_of_ok {places maxExponent : Count} {mode : Option Rounding} {settings : Settings}
    (h : Settings.of? places mode maxExponent = .ok settings) : settings.rounding = mode := by
  obtain ⟨_, -, h⟩ := bind_eq_ok_iff.1 h
  obtain ⟨_, -, h⟩ := bind_eq_ok_iff.1 h
  cases h
  rfl

/-- Division always knows how to round, and an outline is shown only if it is asked for. -/
theorem resolve_eq_ok {options : Options}
    (h : Options.resolve limits arguments input folder = .ok options) :
    options.settings.rounding = some .halfUp ∧ options.debug = arguments.debug := by
  obtain ⟨_, -, h⟩ := bind_eq_ok_iff.1 h
  obtain ⟨_, -, h⟩ := bind_eq_ok_iff.1 h
  obtain ⟨_, -, h⟩ := bind_eq_ok_iff.1 h
  obtain ⟨_, -, h⟩ := bind_eq_ok_iff.1 h
  obtain ⟨settings, hsettings, h⟩ := bind_eq_ok_iff.1 h
  obtain ⟨_, -, h⟩ := bind_eq_ok_iff.1 h
  cases h
  exact ⟨settings_of_ok (mapError_eq_ok_iff.1 hsettings), rfl⟩

/-! ### Runs -/

section Options

variable {options : Options}

/-- A calculation that fails with a report ends the run with that report. -/
theorem Options.run_of_report {e : CalculationError} {report : Report}
    (h : Calculation.run limits options.settings options.bindings options.expression = .error e)
    (hreport : e.report? = some report) :
    options.run limits =
      .ok (reported (if report.kind.isEvaluation then 2 else 1) report.text) := by
  rw [Options.run]
  simp only [h, hreport]

/-- **The exit status of a calculation that fails** says whether the text could not be read or its
value could not be found. -/
theorem Options.run_of_error (hrounding : options.settings.rounding ≠ none) {e : CalculationError}
    (h : Calculation.run limits options.settings options.bindings options.expression = .error e) :
    ∃ report, e.report? = some report ∧
      options.run limits = .ok (reported (if e.isReading then 1 else 2) report.text) := by
  obtain ⟨report, hreport, hkind⟩ := Calculation.run_error hrounding h
  refine ⟨report, hreport, (run_of_report h hreport).trans ?_⟩
  obtain ⟨hreading, hkind | hkind⟩ | ⟨hreading, hkind⟩ := hkind <;> rw [hreading, hkind] <;> rfl

/-- A calculation that returns is shown, with the outline if that can be made. -/
theorem Options.run_of_ok {c : Calculation}
    (h : Calculation.run limits options.settings options.bindings options.expression = .ok c) :
    options.run limits =
      (outlineFor limits options c.tree).map fun outline => ⟨0, showResult c options, outline⟩ := by
  rw [Options.run, h]
  rfl

/-- No outline is made exactly if one is asked for and the tree is too high for it. -/
theorem outlineFor_eq_error_iff {tree : Expr} {escape : Escape} :
    outlineFor limits options tree = .error escape ↔
      options.debug ∧ limits.outline < tree.height ∧ escape = .outline := by
  rw [outlineFor, Expr.outline?]
  split_ifs with hdebug hheight <;> simp [*, eq_comm]

end Options

/-- A run escapes in one of the ways that are listed, or ends. -/
theorem run_cases {argv : List String} (hargv : Arguments.read argv = .ok arguments)
    (limits : Limits) (input : Input) (folder : Folder) :
    (∃ escape, run limits argv input folder = .error escape ∧
      Escapes limits arguments input folder escape) ∨
      ∃ outcome, run limits argv input folder = .ok outcome ∧
        (outcome.exit = 0 ∨ (outcome.exit = 1 ∨ outcome.exit = 2) ∧ outcome.stdout = "") := by
  simp only [run, hargv]
  cases hresolve : Options.resolve limits arguments input folder with
  | error e =>
    obtain ⟨exit, text, hexit, he⟩ | ⟨escape, he, hescapes⟩ := resolve_error hresolve
    · exact .inr ⟨_, he, .inr ⟨hexit, rfl⟩⟩
    · exact .inl ⟨escape, he, hescapes⟩
  | ok options =>
    cases hrun : Calculation.run limits options.settings options.bindings options.expression with
    | error e =>
      have hrounding := (resolve_eq_ok hresolve).1
      obtain ⟨_, -, he⟩ := Options.run_of_error (hrounding ▸ Option.some_ne_none _) hrun
      refine .inr ⟨_, he, .inr ⟨?_, rfl⟩⟩
      cases e.isReading
      · exact .inr rfl
      · exact .inl rfl
    | ok c =>
      simp only [Options.run_of_ok hrun]
      cases houtline : outlineFor limits options c.tree with
      | ok outline => exact .inr ⟨_, rfl, .inl rfl⟩
      | error escape =>
        obtain ⟨hdebug, hheight, rfl⟩ := outlineFor_eq_error_iff.1 houtline
        exact .inl ⟨_, rfl, .outline hresolve hdebug hrun hheight⟩

/-- A run that could escape does. -/
theorem Escapes.run_eq {argv : List String} (hargv : Arguments.read argv = .ok arguments)
    {escape : Escape} (h : Escapes limits arguments input folder escape) :
    run limits argv input folder = .error escape := by
  rw [run, hargv]
  cases h with
  | configuration hfile hread =>
    have hconfig := readConfiguration_eq_error_iff.2 (.inl ⟨_, _, hfile, hread, rfl⟩)
    simp only [Options.resolve, hconfig]
    rfl
  | value hconfig hentries hbefore hvalue =>
    have hvariables := configuredVariables_eq_error_iff.2
      ⟨_, _, _, _, _, hentries, hbefore, hvalue, rfl⟩
    simp only [Options.resolve, hconfig, bind, Except.bind, hvariables]
    rfl
  | nullInPath hconfig hvariables hpath hnull =>
    have hfile : fileVariables folder arguments.varsFile = .error .nullInPath := by
      rw [fileVariables, hpath]
      exact if_pos (List.contains_iff_mem.2 hnull)
    simp only [Options.resolve, hconfig, bind, Except.bind, hvariables, hfile]
    rfl
  | input hreads hinput hoptions =>
    have hundecodable : Options.resolve limits arguments .undecodable folder = .error .input := by
      rw [resolve_undecodable hreads, hoptions]
      rfl
    simp only [hinput, hundecodable]
    rfl
  | outline hoptions hdebug hrun hheight =>
    simp only [hoptions, Options.run_of_ok hrun,
      outlineFor_eq_error_iff.2 ⟨hdebug, hheight, rfl⟩]
    rfl

/-- **How a run ends.** Where the arguments are accepted, a run escapes exactly in the ways that are
listed, whatever its limits. A run that does not escape ends with exit 0, or it ends with exit 1 or
2 and then writes nothing to standard output. -/
theorem run_exit {argv : List String} (hargv : Arguments.read argv = .ok arguments)
    (limits : Limits) (input : Input) (folder : Folder) :
    (∀ escape, run limits argv input folder = .error escape ↔
      Escapes limits arguments input folder escape) ∧
      ∀ outcome, run limits argv input folder = .ok outcome →
        outcome.exit = 0 ∨ (outcome.exit = 1 ∨ outcome.exit = 2) ∧ outcome.stdout = "" := by
  refine ⟨fun escape => ⟨fun h => ?_, fun h => h.run_eq hargv⟩, fun outcome h => ?_⟩
  · obtain ⟨_, he, hescapes⟩ | ⟨_, hok, -⟩ := run_cases hargv limits input folder
    · exact Except.error.inj (he.symm.trans h) ▸ hescapes
    · cases hok.symm.trans h
  · obtain ⟨_, he, -⟩ | ⟨_, hok, hend⟩ := run_cases hargv limits input folder
    · cases he.symm.trans h
    · exact Except.ok.inj (hok.symm.trans h) ▸ hend

/-- A quotient by zero is reported. -/
theorem run_exit_quotient :
    Arguments.read ["1 / 0"] = .ok { expression := some "1 / 0" } ∧
      (∀ escape, ¬Escapes {} { expression := some "1 / 0" } .undecodable ⟨[], []⟩ escape) ∧
        ∃ outcome, run {} ["1 / 0"] .undecodable ⟨[], []⟩ = .ok outcome ∧ outcome.exit = 2 ∧
          outcome.stdout = "" := by
  have hargv : Arguments.read ["1 / 0"] = .ok { expression := some "1 / 0" } := by decide +kernel
  have hrun : run {} ["1 / 0"] .undecodable ⟨[], []⟩ = .ok (reported 2
      "error: division by zero\n  --> <expr>:1:1\n  |\n1 | 1 / 0\n  | ^^^^^") := by decide +kernel
  obtain ⟨hescape, hend⟩ := run_exit hargv {} .undecodable ⟨[], []⟩
  refine ⟨hargv, fun escape h => ?_, _, hrun, rfl, ?_⟩
  · cases hrun.symm.trans ((hescape escape).2 h)
  · obtain h0 | ⟨-, hstdout⟩ := hend _ hrun
    · cases h0
    · exact hstdout

/-- **Not every run ends with an exit status**: a configuration that is no document ends it
otherwise. -/
theorem run_escapes_malformed :
    ¬∀ argv arguments input folder, Arguments.read argv = .ok arguments →
      ∃ outcome, run {} argv (.text input) folder = .ok outcome := by
  intro h
  have hargv : Arguments.read ["1"] = .ok { expression := some "1" } := by decide +kernel
  have hrun : run {} ["1"] (.text "") ⟨[(["stepcalc.toml"], "not toml")], []⟩ =
      .error (.configuration .malformed) := by decide +kernel
  obtain ⟨_, hok⟩ := h _ _ "" ⟨[(["stepcalc.toml"], "not toml")], []⟩ hargv
  cases hrun.symm.trans hok

end CommandLine
end Reckoner
