import Parley.Game.Config
import Parley.Game.Interactive
import Parley.Game.Playthrough
import Parley.Surface.Script

/-!
# Running games

A whole game as a function from its input to what it writes.
-/

namespace Parley

/-- Why a game ended before its time. -/
inductive RunError where
  | noNpcs
  | badScript (fault : ScriptFault)
  | dialogue (error : DialogueError)
  | unreadableInput

/-- The wording of an error, followed by that of what caused it. -/
def RunError.chain : RunError → List String
  | .noNpcs => ["scenario has nobody to talk to"]
  | .badScript fault => ["invalid script step", fault.message]
  | .dialogue error => [error.message]
  | .unreadableInput => ["failed to read input", Scenario.notText]

/-- What a game wrote, and the error that it ended with, if any. -/
structure RunResult where
  output : String
  error : Option RunError

/-- The text of a playthrough: the lines of its transcript, and how it ended. -/
def Playthrough.text (p : Playthrough) : String :=
  Terminal.linesText
    (p.transcript ++ ["", "(" ++ Decimal.ofNat p.turns ++ " turn(s), ended: " ++ p.outcome.name
      ++ ")"])

namespace Scenario

/-- Plays a script with the first character; both the conversation and random picks are seeded
with `seed`. -/
def playthrough (s : Scenario) (script : List String) (seed : UInt64) (maxTurns : Nat) :
    Except RunError Playthrough := do
  match s.npcs with
  | [] => throw .noNpcs
  | npc :: _ =>
    let source := Random.Source.ofSeed seed
    let result ←
      if script.isEmpty then
        pure (Playthrough.play npc s.collections s.entryKeys (RandomPolicy.ofSeed seed) source
          maxTurns).1
      else
        match ScriptedPolicy.parse script with
        | .error fault => throw (.badScript fault)
        | .ok policy =>
          pure (Playthrough.play npc s.collections s.entryKeys policy source maxTurns).1
    match result with
    | .ok p => return p
    | .error e => throw (.dialogue e)

/-- Runs a game. `seed` is used where the settings have none. -/
def run (s : Scenario) (config : Config) (seed : UInt64) (input : List (Option String)) :
    RunResult :=
  let seed := (config.seed.map UInt64.ofNat).getD seed
  match config.mode with
  | .interactive =>
    let (output, readable) := (Game.start s (.ofSeed seed)).play input
    ⟨output, if readable then none else some .unreadableInput⟩
  | .automated script =>
    match s.playthrough script seed config.maxTurns with
    | .ok p => ⟨p.text, none⟩
    | .error e => ⟨"", some e⟩

end Scenario

end Parley
