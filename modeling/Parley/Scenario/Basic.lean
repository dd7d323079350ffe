import Parley.Dialogue.Graph

/-!
# Scenarios

The characters of a play together with the collections and entry keys of their conversations.
-/

namespace Parley

/-- All that a host needs to run conversations. -/
structure Scenario where
  npcs : List Npc
  collections : Collections
  /-- The frontier at the start of every session. -/
  entryKeys : List Key

/-- The first character with an identity. -/
def Scenario.find? (s : Scenario) (identity : String) : Option Npc :=
  s.npcs.find? (·.identity == identity)

/-- Why there is no scenario. -/
inductive ScenarioError where
  /-- The file could not be read, for a reason given in words. -/
  | unreadable (path : String) (reason : String)
  | invalid (fault : Json.Fault)
  | noNpcs

/-- The wording of an error. -/
def ScenarioError.message : ScenarioError → String
  | .unreadable path reason => "failed to read scenario " ++ path ++ ": " ++ reason
  | .invalid fault => "invalid scenario: " ++ fault.message
  | .noNpcs => "scenario has nobody to talk to"

/-- The wording of an error followed by that of what caused it. -/
def ScenarioError.chain (e : ScenarioError) : List String :=
  match e with
  | .unreadable _ reason => [e.message, reason]
  | .invalid fault => [e.message, fault.message]
  | .noNpcs => [e.message]

end Parley
