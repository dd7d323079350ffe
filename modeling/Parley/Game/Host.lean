import Parley.Conversation
import Parley.Scenario.Basic
import Parley.Surface.Terminal

/-!
# Hosts

A host lets one player talk to the characters of a scenario, one at a time, at a terminal.
-/

namespace Parley

/-- The characters, the conversation at the terminal, and who is being talked to. -/
structure Host where
  npcs : List Npc
  entryKeys : List Key
  conversation : Conversation Terminal
  /-- The position of the character that is being talked to. -/
  talkingTo : Option Nat

namespace Host

/-- A host of a scenario, with nobody being talked to. -/
def ofScenario (s : Scenario) (source : Random.Source) : Host :=
  ⟨s.npcs, s.entryKeys, .create .blank s.collections source, none⟩

/-- Starts talking to the character at a position: a new session, and a random entry node. -/
def talkTo (h : Host) (index : Nat) : Except DialogueError Unit × Host :=
  match h.npcs[index]? with
  | none => (.error (.unknownNpc index), h)
  | some npc =>
    let (result, conversation) := (h.conversation.startSession h.entryKeys).visitRandom npc
    (result, { h with conversation, talkingTo := some index })

/-- Ends the session. -/
def leave (h : Host) : Host :=
  { h with conversation := h.conversation.endSession, talkingTo := none }

/-- Hands an event to the conversation with the character at a position. -/
def converse (h : Host) (index : Nat) (event : InputEvent) :
    Except DialogueError (Option Transition) × Host :=
  match h.npcs[index]? with
  | none => (.error (.unknownNpc index), h)
  | some npc =>
    let (result, conversation, npc) := h.conversation.handleEvent npc event
    (result, { h with conversation, npcs := h.npcs.set index npc })

/-- The identity of the character that is being talked to. -/
def partner (h : Host) : String :=
  match h.talkingTo.bind (h.npcs[·]?) with
  | some npc => npc.identity
  | none => "nobody"

/-- How a conversation that broke off is put into words. -/
def describe (h : Host) : DialogueError → String
  | .frontierExhausted => h.partner ++ " has nothing more to say."
  | e => "The conversation with " ++ h.partner ++ " breaks off (" ++ e.message ++ ")."

end Host

end Parley
