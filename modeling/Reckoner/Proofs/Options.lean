/-
# Where an option comes from

A variable has the value of its last assignment among the arguments; failing that, of its last
definition in the file of variables; failing that, of its entry in the configuration. A count is
that of the argument, of the configuration or the default, whichever comes first, and only that one
is checked. A display can be turned away from its default in either place (`Merges`).

Nothing is resolved if a value of the configuration has no text, if a line of the file of variables
is malformed, if an argument is refused, or if there is no text on standard input where one is to be
read, and this is the order in which they are noticed (`resolve_merges`). So a value without a text
hides what else is wrong: a malformed line is not reported next to it (`resolve_hides_malformed`).
-/

import Reckoner.Proofs.CommandLine
import Reckoner.Proofs.Definitions

namespace Reckoner

/-! ### Counts -/

/-- What a count counts as, before it is checked. -/
def Count.value : Count → ℤ
  | integer n => n
  | truth b => b.toNat

/-- A count is refused if it is negative, and else kept. -/
theorem Count.quantity?_cases (count : Count) :
    (count.value < 0 ∧ ∃ e, count.quantity? = .error e) ∨
      ∃ quantity, count.quantity? = .ok quantity ∧ (quantity.toNat : ℤ) = count.value := by
  cases count with
  | integer n =>
    by_cases h : n < 0
    · exact .inl ⟨h, n, if_pos h⟩
    · exact .inr ⟨_, if_neg h, Int.toNat_of_nonneg (not_lt.1 h)⟩
  | truth b => exact .inr ⟨_, rfl, rfl⟩

/-- Settings are those of the counts, unless one of these is negative. -/
theorem Settings.of?_cases (places maxExponent : Count) (mode : Option Rounding) :
    ((places.value < 0 ∨ maxExponent.value < 0) ∧ ∃ e, of? places mode maxExponent = .error e) ∨
      ∃ settings, of? places mode maxExponent = .ok settings ∧
        (settings.places.toNat : ℤ) = places.value ∧
          (settings.maxExponent.toNat : ℤ) = maxExponent.value := by
  rw [of?]
  obtain ⟨hnegative, e, hplaces⟩ | ⟨quantity, hplaces, hvalue⟩ := places.quantity?_cases
  · exact .inl ⟨.inl hnegative, .places e, by rw [hplaces]; rfl⟩
  obtain ⟨hnegative, e, hexponent⟩ | ⟨quantity', hexponent, hvalue'⟩ := maxExponent.quantity?_cases
  · exact .inl ⟨.inr hnegative, .maxExponent e, by rw [hplaces, hexponent]; rfl⟩
  · exact .inr ⟨⟨quantity, mode, quantity'⟩, by rw [hplaces, hexponent]; rfl, hvalue, hvalue'⟩

namespace CommandLine

variable {limits : Limits} {arguments : Arguments} {config : Toml.Table} {text : String}
  {folder : Folder} {input : Input}

/-! ### Assignments -/

/-- What an argument assigns: a name and a value stand around its first equals sign, and the blanks
around them do not count. -/
inductive Assigns : String → String × String → Prop
  | mk {name value : List Char} (hequals : '=' ∉ name) (hname : ¬Text.isBlankText name) :
    Assigns (String.ofList (name ++ '=' :: value))
      (String.ofList (Text.trim name), String.ofList (Text.trim value))

/-- That an argument is no assignment: it has no equals sign, or only blanks in front of it. -/
def Unassignable (given : String) : Prop :=
  '=' ∉ given.toList ∨ Text.isBlankText (given.toList.takeWhile (· != '='))

/-- A name ends at the first equals sign. -/
theorem span_equals {name : List Char} (h : '=' ∉ name) (value : List Char) :
    (name ++ '=' :: value).takeWhile (· != '=') = name ∧
      (name ++ '=' :: value).dropWhile (· != '=') = '=' :: value :=
  Text.run_append (fun c hc => bne_iff_ne.2 fun heq => h (heq ▸ hc)) (by rintro _ ⟨⟩; rfl)

/-- What assigns a pair is read as the pair. -/
theorem Assigns.readAssignment_eq {given : String} {pair : String × String}
    (h : Assigns given pair) :
    readAssignment given = .ok pair := by
  obtain ⟨hequals, hname⟩ := h
  obtain ⟨htake, hdrop⟩ := span_equals hequals _
  rw [readAssignment, String.toList_ofList, List.span_eq_takeWhile_dropWhile, htake, hdrop]
  refine if_neg fun hempty => hname (List.all_eq_true.2 ?_)
  exact Text.trim_eq_nil_iff.1 (List.isEmpty_iff.1 hempty)

/-- What assigns nothing is refused. -/
theorem Unassignable.readAssignment_eq {given : String} (h : Unassignable given) :
    ∃ e, readAssignment given = .error e := by
  rw [readAssignment, List.span_eq_takeWhile_dropWhile]
  cases hdrop : given.toList.dropWhile (· != '=') with
  | nil => exact ⟨_, rfl⟩
  | cons c value =>
    obtain hequals | hblank := h
    · have hall := List.dropWhile_eq_nil_iff.2 fun c hc =>
        (bne_iff_ne.2 fun heq => hequals (heq ▸ hc) : (c != '=') = true)
      cases hall.symm.trans hdrop
    · have htrim := Text.trim_eq_nil_iff.2 (List.all_eq_true.1 hblank)
      exact ⟨_, if_pos (List.isEmpty_iff.2 htrim)⟩

/-- What assigns a pair is not refused. -/
theorem Assigns.not_unassignable {given : String} {pair : String × String}
    (h : Assigns given pair) :
    ¬Unassignable given := by
  intro hunassignable
  obtain ⟨e, he⟩ := hunassignable.readAssignment_eq
  cases he.symm.trans h.readAssignment_eq

/-- What is not refused assigns a pair. -/
theorem exists_assigns {given : String} (h : ¬Unassignable given) : ∃ pair, Assigns given pair := by
  rw [Unassignable, not_or, not_not] at h
  obtain ⟨hequals, hblank⟩ := h
  obtain ⟨name, value, hgiven, hname⟩ := List.eq_append_cons_of_mem hequals
  obtain rfl : given = String.ofList (name ++ '=' :: value) := by
    rw [← hgiven, String.ofList_toList]
  rw [hgiven, (span_equals hname value).1] at hblank
  exact ⟨_, .mk hname hblank⟩

/-- **An assignment is read** as what it assigns. -/
theorem readAssignment_eq_ok_iff {given : String} {pair : String × String} :
    readAssignment given = .ok pair ↔ Assigns given pair := by
  refine ⟨fun h => ?_, Assigns.readAssignment_eq⟩
  have hassignable : ¬Unassignable given := fun hunassignable => by
    obtain ⟨e, he⟩ := hunassignable.readAssignment_eq
    cases he.symm.trans h
  obtain ⟨pair', hpair⟩ := exists_assigns hassignable
  cases hpair.readAssignment_eq.symm.trans h
  exact hpair

/-- **An assignment is refused** exactly if it assigns nothing. -/
theorem exists_readAssignment_error_iff {given : String} :
    (∃ e, readAssignment given = .error e) ↔ Unassignable given := by
  refine ⟨fun ⟨e, he⟩ => ?_, Unassignable.readAssignment_eq⟩
  by_contra hunassignable
  obtain ⟨pair, hpair⟩ := exists_assigns hunassignable
  cases he.symm.trans hpair.readAssignment_eq

/-! ### Layers -/

/-- The entries of the variables of a configuration. -/
def variableEntries (config : Toml.Table) : Toml.Table := (config.table? "variables").getD []

/-- That a value has a text. -/
def HasText (limits : Limits) (value : Toml.Value) : Prop :=
  ∃ text, value.toText limits.values = .ok text

/-- The variable of an entry. -/
def Configures (limits : Limits) (entry : String × Toml.Value) (pair : String × String) : Prop :=
  pair.1 = entry.1 ∧ entry.2.toText limits.values = .ok pair.2

/-- The text of the file of variables. Where no file is given, there is nothing in it. -/
inductive VariablesText (folder : Folder) (path : Option String) : String → Prop
  | none (hgiven : givenPath path = none) : VariablesText folder path ""
  | file {given text : String} (hgiven : givenPath path = some given)
      (hnull : '\x00' ∉ given.toList)
    (hread : folder.read given = .ok text) : VariablesText folder path text

/-- The configured variables have the texts of their values. -/
theorem configuredVariables_eq_ok {bindings : Bindings}
    (h : configuredVariables limits config = .ok bindings) :
    List.Forall₂ (Configures limits) (variableEntries config) bindings := by
  refine (forall₂_of_mapM h).imp fun entry pair hpair => ?_
  have hmap := mapError_eq_ok_iff.1 hpair
  cases htext : entry.2.toText limits.values with
  | error e => simp only [htext, Except.map, reduceCtorEq] at hmap
  | ok text =>
    rw [htext] at hmap
    cases hmap
    exact ⟨rfl, htext⟩

/-- The variables of the file are those that its text defines. -/
theorem VariablesText.fileVariables_eq {path : Option String} (h : VariablesText folder path text) :
    fileVariables folder path = (Template.definitions text).mapError .template := by
  rw [fileVariables]
  cases h with
  | none hgiven =>
    rw [hgiven]
    rfl
  | file hgiven hnull hread =>
    simp only [hgiven, List.contains_iff_mem, if_neg hnull, hread]
    rfl

/-- The count that prevails: that of the argument, else that of the configuration, else the default.
In a configuration only an integer or a truth value is a count. -/
def prevailing (given : Option ℤ) (config : Toml.Table) (key : String) (default : ℤ) : ℤ :=
  given.getD <| match (config.table? "arithmetic").bind (·.find? key) with
    | some (.integer n) => n
    | some (.truth b) => b.toNat
    | _ => default

/-- The count that wins is the one that prevails. -/
theorem value_winningCount (given : Option ℤ) (config : Toml.Table) (key : String) (default : ℤ) :
    (winningCount given (configuredCount config key) default).value =
      prevailing given config key default := by
  cases given with
  | some n => rfl
  | none =>
    rw [winningCount, configuredCount, prevailing]
    cases (config.table? "arithmetic").bind (·.find? key) with
    | none => rfl
    | some value => cases value <;> rfl

/-- A configured display is a truth value at its key. -/
theorem configuredDisplay_eq_some_iff {key : String} {b : Bool} :
    configuredDisplay config key = some b ↔
      (config.table? "display").bind (·.find? key) = some (.truth b) := by
  rw [configuredDisplay]
  cases (config.table? "display").bind (·.find? key) with
  | none => simp
  | some value => cases value <;> simp

/-- What is shown unless hidden is hidden by the argument or by the configuration. -/
theorem hides_iff {asked : Bool} {key : String} :
    (!asked && (configuredDisplay config key).getD true) = false ↔
      asked ∨ (config.table? "display").bind (·.find? key) = some (.truth false) := by
  rw [← configuredDisplay_eq_some_iff]
  cases asked <;> cases configuredDisplay config key <;> simp

/-- What is hidden unless shown is shown by the argument or by the configuration. -/
theorem shows_iff {asked : Bool} {key : String} :
    (asked || (configuredDisplay config key).getD false) ↔
      asked ∨ (config.table? "display").bind (·.find? key) = some (.truth true) := by
  rw [← configuredDisplay_eq_some_iff]
  cases asked <;> cases configuredDisplay config key <;> simp

/-! ### The options -/

/-- That options come from a configuration, a text of variables and arguments, each setting by
itself. -/
structure Merges (limits : Limits) (arguments : Arguments) (config : Toml.Table) (text : String)
    (options : Options) : Prop where
  bindings : ∃ configured defined assigned,
    List.Forall₂ (Configures limits) (variableEntries config) configured ∧
    List.Forall₂ Template.Defines (Text.breakLines text.toList) defined ∧
    List.Forall₂ Assigns arguments.assignments assigned ∧
    ∀ name, options.bindings.find? name = (assigned.reverse.lookup name).or
      ((defined.flatten.reverse.lookup name).or (configured.lookup name))
  places : (options.settings.places.toNat : ℤ) = prevailing arguments.places config "places" 40
  maxExponent : (options.settings.maxExponent.toNat : ℤ) =
    prevailing arguments.maxExponent config "max_exponent" 100000
  showSteps : options.showSteps = false ↔
    arguments.noSteps ∨ (config.table? "display").bind (·.find? "steps") = some (.truth false)
  showTerms : options.showTerms ↔
    arguments.terms ∨ (config.table? "display").bind (·.find? "terms") = some (.truth true)

/-- That arguments are refused next to a configuration: one is no assignment, or a count that
prevails is negative. -/
def Refused (arguments : Arguments) (config : Toml.Table) : Prop :=
  (∃ given ∈ arguments.assignments, Unassignable given) ∨
    prevailing arguments.places config "places" 40 < 0 ∨
      prevailing arguments.maxExponent config "max_exponent" 100000 < 0

/-- That the expression is to be read from standard input, where no text is. -/
def Unreadable (arguments : Arguments) (input : Input) : Prop :=
  arguments.readsInput ∧ input = .undecodable

/-- What the options of a run are resolved to. The cases are in the order of being noticed. -/
inductive Resolved (limits : Limits) (arguments : Arguments) (input : Input) (config : Toml.Table)
    (text : String) : Except OptionsError Options → Prop
  | value {before after : Toml.Table} {name : String} {value : Toml.Value}
      {e : Toml.Value.TextError}
      (hentries : variableEntries config = before ++ (name, value) :: after)
      (hbefore : ∀ entry ∈ before, HasText limits entry.2)
      (hvalue : value.toText limits.values = .error e) :
      Resolved limits arguments input config text (.error (.value e))
  | template {e : TemplateError}
      (hentries : ∀ entry ∈ variableEntries config, HasText limits entry.2)
    (hline : ∃ line ∈ Text.breakLines text.toList, Template.Malformed line) :
    Resolved limits arguments input config text (.error (.template e))
  | argument {e : ArgumentError}
      (hentries : ∀ entry ∈ variableEntries config, HasText limits entry.2)
    (hlines : ∀ line ∈ Text.breakLines text.toList, ¬Template.Malformed line)
    (hrefused : Refused arguments config) :
    Resolved limits arguments input config text (.error (.argument e))
  | input (hentries : ∀ entry ∈ variableEntries config, HasText limits entry.2)
    (hlines : ∀ line ∈ Text.breakLines text.toList, ¬Template.Malformed line)
    (hrefused : ¬Refused arguments config) (hinput : Unreadable arguments input) :
    Resolved limits arguments input config text (.error .input)
  | options {options : Options}
      (hentries : ∀ entry ∈ variableEntries config, HasText limits entry.2)
    (hlines : ∀ line ∈ Text.breakLines text.toList, ¬Template.Malformed line)
    (hrefused : ¬Refused arguments config) (hinput : ¬Unreadable arguments input)
    (hmerges : Merges limits arguments config text options) :
    Resolved limits arguments input config text (.ok options)

/-- The arguments assign pairs, or one of them is refused. -/
theorem argumentVariables_cases (assignments : List String) :
    ((∃ given ∈ assignments, Unassignable given) ∧
      ∃ e, argumentVariables assignments = .error (.argument e)) ∨
    ∃ assigned, List.Forall₂ Assigns assignments assigned ∧
      argumentVariables assignments = .ok assigned := by
  rw [argumentVariables]
  cases h : assignments.mapM readAssignment with
  | error e =>
    obtain ⟨before, given, after, rfl, -, he⟩ := mapM_eq_error_iff.1 h
    have hgiven := exists_readAssignment_error_iff.1 ⟨e, he⟩
    exact .inl ⟨⟨given, List.mem_append_cons_self, hgiven⟩, e, rfl⟩
  | ok assigned =>
    exact .inr ⟨assigned, (forall₂_of_mapM h).imp fun _ _ => readAssignment_eq_ok_iff.1, rfl⟩

/-- There is an expression unless it is unreadable. -/
theorem expressionOr_cases (arguments : Arguments) (input : Input) :
    (Unreadable arguments input ∧ arguments.expressionOr input = .error .input) ∨
      ¬Unreadable arguments input ∧
        ∃ expression, arguments.expressionOr input = .ok expression := by
  cases h : arguments.expressionOr input with
  | error e =>
    obtain ⟨hreads, hinput, rfl⟩ := expressionOr_eq_error_iff.1 h
    exact .inl ⟨⟨hreads, hinput⟩, rfl⟩
  | ok expression =>
    refine .inr ⟨fun ⟨hreads, hinput⟩ => ?_, expression, rfl⟩
    cases h.symm.trans (expressionOr_eq_error_iff.2 ⟨hreads, hinput, rfl⟩)

/-- **Each stage of the resolution**, as far as the one before lets it come. -/
theorem resolved (input : Input)
    (hconfig : readConfiguration limits folder arguments.configFile = .ok config)
    (htext : VariablesText folder arguments.varsFile text) :
    Resolved limits arguments input config text
      (Options.resolve limits arguments input folder) := by
  simp only [Options.resolve, hconfig, htext.fileVariables_eq]
  change Resolved limits arguments input config text (configuredVariables limits config >>= _)
  cases hconfigured : configuredVariables limits config with
  | error e =>
    obtain ⟨before, name, value, after, error, hentries, hbefore, hvalue, rfl⟩ :=
      configuredVariables_eq_error_iff.1 hconfigured
    exact .value hentries hbefore hvalue
  | ok configured =>
    have hpairs := configuredVariables_eq_ok hconfigured
    have hentries :=
      forall_of_forall₂ hpairs fun entry pair h => (⟨_, h.2⟩ : HasText limits entry.2)
    obtain ⟨hline, e, hdefinitions⟩ | ⟨defined, hdefined, hdefinitions⟩ :=
      Template.definitions_cases text
    · rw [hdefinitions]
      exact .template hentries hline
    have hlines := forall_of_forall₂ hdefined fun line _ h => h.not_malformed
    obtain ⟨hgiven, e, harguments⟩ | ⟨assigned, hassigned, harguments⟩ :=
      argumentVariables_cases arguments.assignments
    · rw [hdefinitions, harguments]
      exact .argument hentries hlines (.inl hgiven)
    have hassignable := forall_of_forall₂ hassigned fun given _ h => h.not_unassignable
    have hsettings := Settings.of?_cases
      (winningCount arguments.places (configuredCount config "places") 40)
      (winningCount arguments.maxExponent (configuredCount config "max_exponent") 100000)
      (some .halfUp)
    rw [value_winningCount, value_winningCount] at hsettings
    rw [hdefinitions, harguments]
    obtain ⟨hnegative, e, hsettings⟩ | ⟨settings, hsettings, hplaces, hexponent⟩ := hsettings
    · simp only [hsettings]
      exact .argument hentries hlines (.inr hnegative)
    have hrefused : ¬Refused arguments config := by
      rintro (⟨given, hmem, hgiven⟩ | hnegative | hnegative)
      · exact hassignable given hmem hgiven
      all_goals omega
    simp only [hsettings]
    obtain ⟨hunreadable, hexpression⟩ | ⟨hreadable, expression, hexpression⟩ :=
      expressionOr_cases arguments input
    · rw [hexpression]
      exact .input hentries hlines hrefused hunreadable
    · rw [hexpression]
      refine .options hentries hlines hrefused hreadable ⟨⟨configured, defined, assigned, hpairs,
        hdefined, hassigned, fun name => ?_⟩, hplaces, hexponent, hides_iff, shows_iff⟩
      rw [Bindings.find?_merge_onto, Bindings.find?_merge_merge]
      rfl

/-- **The first value without a text** is what keeps the options from being resolved. -/
theorem resolve_of_value
    (hconfig : readConfiguration limits folder arguments.configFile = .ok config)
    {before after : Toml.Table} {name : String} {value : Toml.Value} {e : Toml.Value.TextError}
    (hentries : variableEntries config = before ++ (name, value) :: after)
    (hbefore : ∀ entry ∈ before, HasText limits entry.2)
    (hvalue : value.toText limits.values = .error e) (input : Input) :
    Options.resolve limits arguments input folder = .error (.value e) := by
  have hvariables := configuredVariables_eq_error_iff.2
    ⟨_, _, _, _, _, hentries, hbefore, hvalue, rfl⟩
  simp only [Options.resolve, hconfig, bind, Except.bind, hvariables]

/-- A value without a text is not among values with texts. -/
theorem not_forall_hasText {before after : Toml.Table} {name : String} {value : Toml.Value}
    {e : Toml.Value.TextError}
    (hentries : variableEntries config = before ++ (name, value) :: after)
    (hvalue : value.toText limits.values = .error e) :
    ¬∀ entry ∈ variableEntries config, HasText limits entry.2 := by
  intro hall
  obtain ⟨text, htext⟩ := hall (name, value) (hentries ▸ List.mem_append_cons_self)
  cases hvalue.symm.trans htext

/-- A folder in which a variable of the configuration is defined again in the file of variables. Of
the counts of the configuration one is negative and one a truth value. -/
def overlapping : Folder :=
  ⟨[(["stepcalc.toml"],
      "[variables]\nx = 1\ny = 'b'\nz = 1.5\n[arithmetic]\nplaces = -1\nmax_exponent = true\n"),
    (["v"], "y = 5\nx = 7\n y = 6")], []⟩

/-- **Where options come from, and what keeps them from being resolved.** Options that are resolved
are merged setting by setting, with the arguments before the file of variables and that before the
configuration. Where every value among the configured variables has a text, a malformed line is
reported if there is one, and only then; failing that, an argument is reported if the arguments are
refused, and only then; and otherwise there are options, unless the expression is to be read from a
standard input without a text. The first value without a text is noticed before all of this. -/
theorem resolve_merges (hconfig : readConfiguration limits folder arguments.configFile = .ok config)
    (htext : VariablesText folder arguments.varsFile text) (input : Input) :
    (∀ options, Options.resolve limits arguments input folder = .ok options →
      Merges limits arguments config text options) ∧
    ((∀ entry ∈ variableEntries config, HasText limits entry.2) →
      ((∃ e, Options.resolve limits arguments input folder = .error (.template e)) ↔
        ∃ line ∈ Text.breakLines text.toList, Template.Malformed line) ∧
      ((∀ line ∈ Text.breakLines text.toList, ¬Template.Malformed line) →
        ((∃ e, Options.resolve limits arguments input folder = .error (.argument e)) ↔
          Refused arguments config) ∧
        ((∃ options, Options.resolve limits arguments input folder = .ok options) ↔
          ¬Refused arguments config ∧ ¬Unreadable arguments input))) ∧
    ∀ before name value after e, variableEntries config = before ++ (name, value) :: after →
      (∀ entry ∈ before, HasText limits entry.2) → value.toText limits.values = .error e →
        Options.resolve limits arguments input folder = .error (.value e) := by
  refine ⟨fun options h => ?_, fun hall => ⟨⟨fun ⟨e, h⟩ => ?_, fun hline => ?_⟩, fun hformed => ?_⟩,
    fun _ _ _ _ _ hentries hbefore hvalue => resolve_of_value hconfig hentries hbefore hvalue input⟩
  all_goals have hresolved := resolved input hconfig htext
  · rw [h] at hresolved
    cases hresolved with
    | options _ _ _ _ hmerges => exact hmerges
  · rw [h] at hresolved
    cases hresolved with
    | template _ hline => exact hline
  · obtain ⟨line, hmem, hline⟩ := hline
    generalize Options.resolve limits arguments input folder = result at hresolved
    cases hresolved with
    | value hentries _ hvalue => exact absurd hall (not_forall_hasText hentries hvalue)
    | template => exact ⟨_, rfl⟩
    | argument _ hlines | input _ hlines | options _ hlines => exact absurd hline (hlines line hmem)
  · generalize Options.resolve limits arguments input folder = result at hresolved
    cases hresolved with
    | value hentries _ hvalue => exact absurd hall (not_forall_hasText hentries hvalue)
    | template _ hline =>
      obtain ⟨line, hmem, hline⟩ := hline
      exact absurd hline (hformed line hmem)
    | argument _ _ hrefused =>
      exact ⟨⟨fun _ => hrefused, fun _ => ⟨_, rfl⟩⟩, nofun, fun h => absurd hrefused h.1⟩
    | input _ _ hrefused hinput =>
      exact ⟨⟨nofun, fun h => absurd h hrefused⟩, nofun, fun h => absurd hinput h.2⟩
    | options _ _ hrefused hinput =>
      exact ⟨⟨nofun, fun h => absurd h hrefused⟩, fun _ => ⟨hrefused, hinput⟩, fun _ => ⟨_, rfl⟩⟩

/-- Names that are given again in later layers and within one, and counts that are so. -/
theorem resolve_merges_overlapping :
    ∃ config options, readConfiguration {} overlapping none = .ok config ∧
      VariablesText overlapping (some "v") "y = 5\nx = 7\n y = 6" ∧
      Merges {} { assignments := ["x = 2", " x= 3 "], varsFile := some "v", places := some 7 }
        config "y = 5\nx = 7\n y = 6" options ∧
      options.bindings = [("x", "3"), ("y", "6"), ("z", "1.5")] ∧
      options.settings = ⟨.number 7, some .halfUp, .truth true⟩ := by
  have hresolve : (Options.resolve {}
      { assignments := ["x = 2", " x= 3 "], varsFile := some "v", places := some 7 } (.text "")
      overlapping >>= fun options => .ok (options.bindings, options.settings)) =
      .ok ([("x", "3"), ("y", "6"), ("z", "1.5")], ⟨.number 7, some .halfUp, .truth true⟩) := by
    decide +kernel
  have htext : VariablesText overlapping (some "v") "y = 5\nx = 7\n y = 6" :=
    .file rfl (by decide) (by decide +kernel)
  obtain ⟨options, hoptions, hvalues⟩ := bind_eq_ok_iff.1 hresolve
  obtain ⟨config, hconfig, -⟩ := bind_eq_ok_iff.1 hoptions
  obtain ⟨hbindings, hsettings⟩ := Prod.mk.inj (Except.ok.inj hvalues)
  exact ⟨config, options, hconfig, htext,
    (resolve_merges hconfig htext (.text "")).1 options hoptions, hbindings, hsettings⟩

/-- A configuration whose variable has too many digits for a text. It is written in hexadecimal
digits. -/
def unwritable : List Char :=
  "[variables]\na = 0x1".toList ++ (List.replicate 3572 '0' ++ ['\n'])

/-- The configuration is read, and its variable has no text. -/
theorem read_unwritable : ∃ config, Toml.read 1000 (String.ofList unwritable) = .ok config ∧
    configuredVariables {} config = .error (.value .tooLong) := by
  have hread : (match Toml.read 1000 (String.ofList unwritable) with
      | .ok config => decide (configuredVariables {} config = .error (.value .tooLong))
      | .error _ => false) = true := by
    rw [Toml.read, String.toList_ofList]
    decide +kernel
  generalize Toml.read 1000 (String.ofList unwritable) = result at hread ⊢
  cases result with
  | error e => cases hread
  | ok config => exact ⟨config, rfl, of_decide_eq_true hread⟩

/-- A folder with a configuration, in which the file of variables is malformed. -/
def malformedFolder (configuration : String) : Folder :=
  ⟨[(["stepcalc.toml"], configuration), (["v"], "b\n")], []⟩

/-- The files of the folder. -/
theorem read_malformedFolder (configuration : String) :
    (malformedFolder configuration).read configName = .ok configuration ∧
      (malformedFolder configuration).read "v" = .ok "b\n" := by
  have hnames : Folder.spelled configName = configName ∧ Folder.namesOf configName = [configName] ∧
      Folder.startOf configName = [] := by decide +kernel
  have hnames' : Folder.spelled "v" = "v" ∧ Folder.namesOf "v" = ["v"] ∧
      Folder.startOf "v" = [] := by decide +kernel
  constructor
  · simp only [Folder.read, hnames]
    rfl
  · simp only [Folder.read, hnames']
    rfl

/-- What is wrong with the configured variables is noticed before the malformed line. -/
theorem resolve_malformedFolder {configuration : String} {e : OptionsError}
    (hread : Toml.read 1000 configuration = .ok config)
    (hvariables : configuredVariables {} config = .error e) :
    readConfiguration {} (malformedFolder configuration) none = .ok config ∧
      Options.resolve {} { varsFile := some "v" } (.text "") (malformedFolder configuration) =
        .error e := by
  have hconfig : readConfiguration {} (malformedFolder configuration) none = .ok config := by
    rw [readConfiguration]
    simp only [givenPath, Option.filter_none, Option.getD_none, read_malformedFolder, hread]
    rfl
  exact ⟨hconfig, by simp only [Options.resolve, hconfig, bind, Except.bind, hvariables]⟩

/-- **A value without a text hides a malformed line.** -/
theorem resolve_hides_malformed :
    ¬∀ arguments config text folder, readConfiguration {} folder arguments.configFile = .ok config →
      VariablesText folder arguments.varsFile text →
        ((∃ e, Options.resolve {} arguments (.text "") folder = .error (.template e)) ↔
          ∃ line ∈ Text.breakLines text.toList, Template.Malformed line) := by
  intro h
  obtain ⟨config, hread, hvariables⟩ := read_unwritable
  obtain ⟨hconfig, hresolve⟩ := resolve_malformedFolder hread hvariables
  have htext : VariablesText (malformedFolder (String.ofList unwritable)) (some "v") "b\n" :=
    .file rfl (by decide) (read_malformedFolder _).2
  obtain ⟨e, he⟩ := (h { varsFile := some "v" } config _ _ hconfig htext).2
    ⟨['b'], by decide,
      (Template.readLine?_eq_none_iff (List.any_eq_false.1 rfl)).1 (by decide +kernel)⟩
  cases hresolve.symm.trans he

end CommandLine
end Reckoner
