/-
# What the command line says about itself
-/

import Reckoner.CommandLine.Arguments

namespace Reckoner
namespace CommandLine

/-- How the program is called. -/
def usage : String :=
  "usage: stepcalc [-h] [-e NAME=VALUE] [--vars FILE] [--config FILE]\n" ++
  "                [--places N] [--max-exponent N] [--no-steps] [--terms]\n" ++
  "                [--debug]\n" ++
  "                [expression]\n"

/-- How the program is called, and what its arguments mean. -/
def help : String :=
  usage ++
  "\n" ++
  "Exact decimal calculator with step-by-step output\n" ++
  "\n" ++
  "positional arguments:\n" ++
  "  expression            Expression to evaluate (default or '-': read from\n" ++
  "                        stdin)\n" ++
  "\n" ++
  "options:\n" ++
  "  -h, --help            show this help message and exit\n" ++
  "  -e NAME=VALUE, --var NAME=VALUE\n" ++
  "                        Define a template variable used as \x7b\x7b NAME \x7d\x7d\n" ++
  "                        (repeatable)\n" ++
  "  --vars FILE           File of 'name = value' variable definitions\n" ++
  "  --config FILE         Config file (default: auto-discover stepcalc.toml)\n" ++
  "  --places N            Fractional digits kept by division (default: 40)\n" ++
  "  --max-exponent N      Largest allowed exponent magnitude (default: 100000)\n" ++
  "  --no-steps            Do not print intermediate steps\n" ++
  "  --terms               Print top-level terms with running totals\n" ++
  "  --debug               Dump AST to stderr\n"

/-- What a run leaves behind. -/
structure Outcome where
  exit : Nat
  stdout : String
  stderr : String
  deriving DecidableEq

/-- The outcome of arguments that are not acted on. -/
def Stop.outcome : Stop → Outcome
  | help => ⟨0, CommandLine.help, ""⟩
  | usage e => ⟨2, "", CommandLine.usage ++ "stepcalc: error: " ++ e.message ++ "\n"⟩

end CommandLine
end Reckoner
