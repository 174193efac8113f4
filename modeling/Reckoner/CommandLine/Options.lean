/-
# The options of a run

What a run does is set in three places, each of which yields to the next: the configuration in the
folder, the file of variables, and the arguments. Every setting yields by itself: a variable of one
name, the places, the greatest exponent, each display. Only the counts that win are checked.

| part of the configuration | sets | ignores |
| --- | --- | --- |
| `[variables]` | variables, as the texts of their values | nothing |
| `[arithmetic]` | `places` and `max_exponent`, by an integer or a truth value | other values |
| `[display]` | `steps` and `terms`, by a truth value | other values |
-/

import Reckoner.CommandLine.Arguments
import Reckoner.Decimal.Settings
import Reckoner.Folder
import Reckoner.Limits
import Reckoner.Template
import Reckoner.Toml.Document

namespace Reckoner
namespace CommandLine

/-- The options of a run. -/
structure Options where
  expression : String
  bindings : Bindings
  settings : Settings
  showSteps : Bool
  showTerms : Bool
  debug : Bool

/-- What is wrong with the value of an argument. -/
inductive ArgumentError where
  /-- A variable is not of the form `NAME=VALUE`. -/
  | noEquals (given : String)
  /-- A variable has no name. -/
  | noName (given : String)
  /-- A count is negative. -/
  | settings (refusal : Settings.Refusal)
  deriving DecidableEq

/-- The wording of an error. -/
def ArgumentError.message : ArgumentError → String
  | noEquals given => "invalid variable format (expected NAME=VALUE): " ++ given
  | noName given => "invalid variable format (empty name): " ++ given
  | settings refusal => refusal.message

/-- Why there are no options. -/
inductive OptionsError where
  | argument (e : ArgumentError)
  | template (e : TemplateError)
  | file (e : FileError)
  | configuration (e : Toml.Error)
  /-- A value in a configuration has no text. -/
  | value (e : Toml.Value.TextError)
  /-- A path holds a character of code point zero. -/
  | nullInPath
  /-- The expression is to be read from standard input, which holds no text. -/
  | input
  deriving DecidableEq

/-- What standard input holds: a text, or bytes that are none. -/
inductive Input where
  | text (s : String)
  | undecodable
  deriving DecidableEq

/-- The name and the value of a variable that is given as an argument. -/
def readAssignment (given : String) : Except ArgumentError (String × String) :=
  match given.toList.span (· != '=') with
  | (_, []) => .error (.noEquals given)
  | (name, _ :: value) =>
    let name := Text.trim name
    if name.isEmpty then .error (.noName given)
    else .ok (String.ofList name, String.ofList (Text.trim value))

/-- The file in which a configuration is looked for. -/
def configName : String := "stepcalc.toml"

/-- A path that is given and not empty. -/
def givenPath (path : Option String) : Option String := path.filter (· != "")

/-- The paths that are read for the given arguments. -/
def Arguments.paths (arguments : Arguments) : List String :=
  (givenPath arguments.configFile).getD configName :: (givenPath arguments.varsFile).toList

/-- Whether the expression is to be read from standard input. -/
def Arguments.readsInput (arguments : Arguments) : Bool :=
  (arguments.expression.filter (· != "-")).isNone

/-- The configuration; it is empty if there is no such file. -/
def readConfiguration (limits : Limits) (folder : Folder) (path : Option String) :
    Except OptionsError Toml.Table :=
  match folder.read ((givenPath path).getD configName) with
  | .ok text => (Toml.read limits.documents text).mapError .configuration
  | .error (.nameTooLong path) => .error (.file (.nameTooLong path))
  | .error _ => .ok []

/-- The variables of a configuration. -/
def configuredVariables (limits : Limits) (config : Toml.Table) : Except OptionsError Bindings :=
  ((config.table? "variables").getD []).mapM fun (name, value) =>
    ((value.toText limits.values).map (name, ·)).mapError .value

/-- The variables of a file. -/
def fileVariables (folder : Folder) (path : Option String) : Except OptionsError Bindings :=
  match givenPath path with
  | none => .ok []
  | some path =>
    if path.toList.contains '\x00' then .error .nullInPath
    else do
      let text ← (folder.read path).mapError .file
      (Template.definitions text).mapError .template

/-- The variables of the arguments, in order. -/
def argumentVariables (assignments : List String) : Except OptionsError Bindings :=
  (assignments.mapM readAssignment).mapError .argument

/-- A count of a configuration, if it is an integer or a truth value. -/
def configuredCount (config : Toml.Table) (key : String) : Option Count :=
  match (config.table? "arithmetic").bind (·.find? key) with
  | some (.integer n) => some (.integer n)
  | some (.truth b) => some (.truth b)
  | _ => none

/-- A display of a configuration, if it is a truth value. -/
def configuredDisplay (config : Toml.Table) (key : String) : Option Bool :=
  match (config.table? "display").bind (·.find? key) with
  | some (.truth b) => some b
  | _ => none

/-- The count that wins. -/
def winningCount (argument : Option Int) (configured : Option Count) (default : Int) : Count :=
  (argument.map .integer).getD (configured.getD (.integer default))

/-- The text on standard input. -/
def Input.read : Input → Except OptionsError String
  | text s => .ok s
  | undecodable => .error .input

/-- The expression: that of the arguments, or else the text on standard input. -/
def Arguments.expressionOr (arguments : Arguments) (input : Input) : Except OptionsError String :=
  match arguments.expression.filter (· != "-") with
  | some expression => .ok expression
  | none => input.read

/-- The options of a run with the given arguments and standard input, in a folder. -/
def Options.resolve (limits : Limits) (arguments : Arguments) (input : Input) (folder : Folder) :
    Except OptionsError Options := do
  let config ← readConfiguration limits folder arguments.configFile
  let fromConfig ← configuredVariables limits config
  let fromFile ← fileVariables folder arguments.varsFile
  let fromArguments ← argumentVariables arguments.assignments
  let places := winningCount arguments.places (configuredCount config "places") 40
  let maxExponent :=
    winningCount arguments.maxExponent (configuredCount config "max_exponent") 100000
  let settings ← (Settings.of? places (some .halfUp) maxExponent).mapError (.argument ∘ .settings)
  let expression ← arguments.expressionOr input
  return {
    expression := expression
    bindings := (fromConfig.merge fromFile).merge fromArguments
    settings := settings
    showSteps := !arguments.noSteps && (configuredDisplay config "steps").getD true
    showTerms := arguments.terms || (configuredDisplay config "terms").getD false
    debug := arguments.debug }

end CommandLine
end Reckoner
