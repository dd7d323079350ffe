import Parley.Game.Config
import Parley.Scenario.Builtin

/-!
# Command-line arguments

The words of a command line: first a scenario, then a seed, then the word `auto` and a script. All
of them may be left out.
-/

namespace Parley.Command

/-- How the program is called. -/
def usage : String :=
  "Usage: colloquy [scenario.json|builtin] [seed] [auto [script-step ...]]\n\n"
    ++ "Example:\n  colloquy builtin 7 auto children back present:pants\n\n"
    ++ "Logging: set RUST_LOG=debug or RUST_LOG=trace for verbose output"

/-- Why the arguments cannot be used. -/
inductive Error where
  | scenario (path : String) (error : ScenarioError)
  | seed (word : String) (error : Decimal.Error)
  | unexpected (word : String)

/-- The wording of an error. -/
def Error.message : Error → String
  | .scenario path _ => "failed to load scenario " ++ path ++ "\n\n" ++ usage
  | .seed word _ => "seed must be a number, got '" ++ word ++ "'\n\n" ++ usage
  | .unexpected word => "unexpected argument '" ++ word ++ "'\n\n" ++ usage

/-- The wordings of what caused an error. -/
def Error.causes : Error → List String
  | .scenario _ error => error.chain
  | .seed _ error => [error.message]
  | .unexpected _ => []

/-- What the arguments ask for. -/
structure Request where
  scenario : Scenario
  config : Config

/-- The word before which no other argument may stand. -/
def autoWord : String := "auto"

/-- The next word, unless it is `auto`, and the words behind it. -/
def nextWord : List String → Option String × List String
  | [] => (none, [])
  | word :: rest => if word = autoWord then (none, word :: rest) else (some word, rest)

/-- The scenario of the first word. -/
def scenarioOf (load : String → Except ScenarioError Scenario) :
    Option String → Except Error Scenario
  | none => .ok .builtin
  | some word =>
    if word = "builtin" then .ok .builtin
    else
      match load word with
      | .ok s => .ok s
      | .error e => .error (.scenario word e)

/-- The seed of the second word. -/
def seedOf : Option String → Except Error (Option Nat)
  | none => .ok none
  | some word =>
    match Decimal.read Decimal.wordBound word.toList with
    | .ok n => .ok (some n)
    | .error e => .error (.seed word e)

/-- The mode of the words that are left. -/
def modeOf : List String → Except Error Mode
  | [] => .ok .interactive
  | word :: rest => if word = autoWord then .ok (.automated rest) else .error (.unexpected word)

/-- What the arguments ask for, or the first thing that is wrong with them. -/
def parse (load : String → Except ScenarioError Scenario) (args : List String) :
    Except Error Request := do
  let (scenarioWord, args) := nextWord args
  let scenario ← scenarioOf load scenarioWord
  let (seedWord, args) := nextWord args
  let seed ← seedOf seedWord
  let mode ← modeOf args
  return ⟨scenario, { seed, mode }⟩

end Parley.Command
