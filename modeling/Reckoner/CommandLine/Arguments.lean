/-
# The arguments of a command line

Arguments are operands or options. An option is one of the spellings below, a long one also by any
start that no other long one shares. Its value follows as the next operand, after `=`, or directly
after the letter of a short one; letters of short options without a value may be strung together,
and what is strung behind them and is no option is left over. After `--` everything is an operand.

| spelling | value |
| --- | --- |
| `-h` `--help` | none |
| `-e` `--var` | a variable; may be repeated |
| `--vars`, `--config` | a file |
| `--places`, `--max-exponent` | an integer |
| `--no-steps`, `--terms`, `--debug` | none |

A word in front with a hyphen is an operand nonetheless if it is a hyphen alone, a number, or holds
a space. The first operand is the expression; more operands and unknown options are refused at the
end.
-/

import Reckoner.Text.Integer
import Reckoner.Text.Quoted

namespace Reckoner
namespace CommandLine

/-- The options. -/
inductive Switch where
  | help
  | var
  | vars
  | config
  | places
  | maxExponent
  | noSteps
  | terms
  | debug
  deriving DecidableEq

namespace Switch

/-- The spellings of the options. -/
def spellings : List (String × Switch) :=
  [("-h", help), ("--help", help), ("-e", var), ("--var", var), ("--vars", vars),
    ("--config", config), ("--places", places), ("--max-exponent", maxExponent),
    ("--no-steps", noSteps), ("--terms", terms), ("--debug", debug)]

/-- The option of a spelling. -/
def ofSpelling? (spelling : String) : Option Switch := spellings.lookup spelling

/-- Whether an option has a value. -/
def takesValue : Switch → Bool
  | var | vars | config | places | maxExponent => true
  | help | noSteps | terms | debug => false

/-- What an option is called in messages: all its spellings. -/
def title (s : Switch) : String :=
  "/".intercalate ((spellings.filter fun p => p.2 == s).map Prod.fst)

end Switch

/-- What is wrong with arguments. -/
inductive UsageError where
  | ambiguous (given : String) (candidates : List String)
  | expectedValue (switch : Switch)
  | ignoredValue (switch : Switch) (value : String)
  | invalidInteger (switch : Switch) (value : String)
  | unrecognized (arguments : List String)
  deriving DecidableEq

/-- The wording of an error. -/
def UsageError.message : UsageError → String
  | ambiguous given candidates =>
    "ambiguous option: " ++ given ++ " could match " ++ ", ".intercalate candidates
  | expectedValue s => "argument " ++ s.title ++ ": expected one argument"
  | ignoredValue s v => "argument " ++ s.title ++ ": ignored explicit argument " ++ Text.quoted v
  | invalidInteger s v => "argument " ++ s.title ++ ": invalid int value: " ++ Text.quoted v
  | unrecognized arguments => "unrecognized arguments: " ++ " ".intercalate arguments

/-- Why arguments are not acted on: they ask for help, or are wrong. -/
inductive Stop where
  | help
  | usage (e : UsageError)
  deriving DecidableEq

/-! ### Words -/

/-- What follows an option in the same argument. -/
inductive Attachment where
  | nothing
  /-- A value after `=`. -/
  | value (text : List Char)
  /-- What follows the letter of a short option directly: its value, or more letters. -/
  | tail (text : List Char)
  deriving DecidableEq

/-- What an argument is. -/
inductive Word where
  | operand (text : String)
  /-- What makes operands of all that follows. -/
  | separator
  | option (switch : Switch) (attached : Attachment)
  /-- An option that there is not. -/
  | unknown (text : String)
  deriving DecidableEq

/-- The text before the first `=`, and the value after it. -/
def splitValue (text : String) : String × Attachment :=
  match text.toList.span (· != '=') with
  | (before, _ :: after) => (String.ofList before, .value after)
  | (_, []) => (text, .nothing)

/-- Whether a text is a negative number: digits with at most one point, and a digit after it. A line
feed may follow. -/
def isNegativeNumber (text : String) : Bool :=
  match text.toList with
  | '-' :: cs =>
    let isDigit (c : Char) : Bool := (Text.digitValue? c).isSome
    let ends (cs : List Char) : Bool := cs == [] || cs == ['\n']
    match cs.span isDigit with
    | (_, '.' :: rest) =>
      let (fraction, rest) := rest.span isDigit
      !fraction.isEmpty && ends rest
    | (whole, rest) => !whole.isEmpty && ends rest
  | _ => false

/-- The options that a long spelling with an attached value, or a start of one, may mean. -/
def longCandidates (text : String) : List (String × Word) :=
  let (start, attached) := splitValue text
  (Switch.spellings.filter fun p => p.1.startsWith start).map fun p => (p.1, .option p.2 attached)

/-- The options that a short spelling with a tail may mean. -/
def shortCandidates (text : String) : List (String × Word) :=
  let cs := text.toList
  (Switch.spellings.filter fun p => p.1.toList == cs.take 2).map fun p =>
    (p.1, .option p.2 (.tail (cs.drop 2)))

/-- What an argument in front of the separator is. -/
def classify (text : String) : Except UsageError Word :=
  let (before, attached) := splitValue text
  if !text.startsWith "-" || text.length = 1 then .ok (.operand text)
  else match Switch.ofSpelling? text, Switch.ofSpelling? before with
    | some switch, _ => .ok (.option switch .nothing)
    | none, some switch => .ok (.option switch attached)
    | none, none =>
      match if text.startsWith "--" then longCandidates text else shortCandidates text with
      | [(_, word)] => .ok word
      | [] =>
        if isNegativeNumber text || text.toList.contains ' ' then .ok (.operand text)
        else .ok (.unknown text)
      | candidates => .error (.ambiguous text (candidates.map Prod.fst))

/-- The words of a command line. -/
def words : List String → Except UsageError (List Word)
  | [] => .ok []
  | text :: rest =>
    if text = "--" then .ok (.separator :: rest.map .operand)
    else do
      let word ← classify text
      return word :: (← words rest)

/-! ### Reading the words -/

/-- The arguments of a run. -/
structure Arguments where
  expression : Option String := none
  /-- The variables in the order in which they were given. -/
  assignments : List String := []
  varsFile : Option String := none
  configFile : Option String := none
  places : Option Int := none
  maxExponent : Option Int := none
  noSteps : Bool := false
  terms : Bool := false
  debug : Bool := false
  deriving DecidableEq

/-- The integer that is the value of an option. -/
def readInteger (switch : Switch) (value : String) : Except Stop Int :=
  match Text.integer? value with
  | some n => .ok n
  | none => .error (.usage (.invalidInteger switch value))

/-- The arguments with one more option, whose value is empty if it has none. -/
def Arguments.take (a : Arguments) (switch : Switch) (value : String) : Except Stop Arguments :=
  match switch with
  | .help => .error .help
  | .var => .ok { a with assignments := a.assignments ++ [value] }
  | .vars => .ok { a with varsFile := some value }
  | .config => .ok { a with configFile := some value }
  | .places => do return { a with places := some (← readInteger .places value) }
  | .maxExponent => do return { a with maxExponent := some (← readInteger .maxExponent value) }
  | .noSteps => .ok { a with noSteps := true }
  | .terms => .ok { a with terms := true }
  | .debug => .ok { a with debug := true }

/-- The options that are strung together in a word: those that have no value, and what ends them. -/
structure Strung where
  flags : List Switch
  /-- The last option, with its value if that is in the word too; there is none if what follows the
  flags is no option. -/
  last : Option (Switch × Option String)
  /-- What is left over, as an argument of its own. -/
  extra : Option String

namespace Strung

/-- An option that ends its word. -/
def single (switch : Switch) (value : Option String) : Strung := ⟨[], some (switch, value), none⟩

/-- An option with a value after `=`. -/
def ofValue (switch : Switch) (text : List Char) : Except UsageError Strung :=
  let given := String.ofList text
  if switch.takesValue then .ok (single switch (some given))
  else .error (.ignoredValue switch given)

/-- An option with a tail: its value, or the letters of more options. -/
def ofTail (switch : Switch) (tail : List Char) : Except UsageError Strung :=
  let given := String.ofList tail
  if switch.takesValue then .ok (single switch (some given))
  else match tail with
    | [] | '-' :: _ => .error (.ignoredValue switch given)
    | c :: rest =>
      match Switch.ofSpelling? (String.ofList ['-', c]) with
      | none => .ok ⟨[switch], none, some ("-" ++ given)⟩
      | some next => do
        let strung ← match rest with
          | [] => .ok (single next none)
          | '=' :: text => ofValue next text
          | _ => ofTail next rest
        return { strung with flags := switch :: strung.flags }

/-- An option and what is attached to it. -/
def ofAttachment (switch : Switch) : Attachment → Except UsageError Strung
  | .nothing => .ok (single switch none)
  | .value text => ofValue switch text
  | .tail text => ofTail switch text

end Strung

/-- A command line under way. -/
structure Progress where
  arguments : Arguments
  /-- Whether the expression is yet to come. -/
  expecting : Bool
  /-- What was not understood. -/
  extras : List String

/-- The text of a word that is no option. -/
def Word.text : Word → String
  | operand text | unknown text => text
  | separator | option .. => "--"

/-- Whether a word is an option. -/
def Word.isOption : Word → Bool
  | option .. | unknown _ => true
  | operand _ | separator => false

namespace Progress

/-- Takes words without options: the first operand is the expression, if it is yet to come, and the
separator next to it is dropped. -/
def takeOperands (p : Progress) (rest : List Word) : Progress :=
  if !p.expecting then { p with extras := p.extras ++ rest.map Word.text }
  else
    let (expression, rest) : Option String × List Word := match rest with
      | .operand text :: .separator :: rest => (some text, rest)
      | .operand text :: rest => (some text, rest)
      | .separator :: .operand text :: rest => (some text, rest)
      | .separator :: rest => (none, rest)
      | rest => (none, rest)
    { arguments := { p.arguments with expression := expression }
      expecting := false
      extras := p.extras ++ rest.map Word.text }

/-- The options of a word with their values, of which the last one may be the next operand, and the
words that are left. -/
def givenOptions (strung : Strung) (rest : List Word) :
    Except UsageError (List (Switch × String) × List Word) :=
  let flags := strung.flags.map (·, "")
  match strung.last with
  | none => .ok (flags, rest)
  | some (last, some value) => .ok (flags ++ [(last, value)], rest)
  | some (last, none) =>
    if !last.takesValue then .ok (flags ++ [(last, "")], rest)
    else match rest with
      | .operand text :: rest => .ok (flags ++ [(last, text)], rest)
      | _ => .error (.expectedValue last)

/-- Takes the options of a word. -/
def takeOptions (p : Progress) (switch : Switch) (attached : Attachment) (rest : List Word) :
    Except Stop (Progress × List Word) := do
  let strung ← (Strung.ofAttachment switch attached).mapError .usage
  let (given, rest) ← (givenOptions strung rest).mapError .usage
  let arguments ← given.foldlM (fun a g => a.take g.1 g.2) p.arguments
  return ({ p with arguments := arguments, extras := p.extras ++ strung.extra.toList }, rest)

/-- Takes all words. The budget is the number of words. -/
def takeAll : Nat → Progress → List Word → Except Stop Progress
  | 0, p, rest => .ok (p.takeOperands rest)
  | budget + 1, p, rest =>
    if !rest.any Word.isOption then .ok (p.takeOperands rest)
    else match rest with
      | .option switch attached :: rest => do
        let (p, rest) ← p.takeOptions switch attached rest
        takeAll budget p rest
      | .operand text :: rest =>
        if p.expecting then
          let arguments := { p.arguments with expression := some text }
          takeAll budget { p with arguments := arguments, expecting := false } rest
        else takeAll budget { p with extras := p.extras ++ [text] } rest
      | word :: rest => takeAll budget { p with extras := p.extras ++ [word.text] } rest
      | [] => .ok p

end Progress

/-- The arguments of a command line. -/
def Arguments.read (argv : List String) : Except Stop Arguments := do
  let rest ← (words argv).mapError .usage
  let p ← Progress.takeAll rest.length ⟨{}, true, []⟩ rest
  if p.extras.isEmpty then return p.arguments else .error (.usage (.unrecognized p.extras))

end CommandLine
end Reckoner
