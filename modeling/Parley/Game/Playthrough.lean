import Parley.Conversation
import Parley.Surface.Automated

/-!
# Automated playthroughs

A conversation with one character in which a policy selects, turn by turn, and the transcript that
it leaves.
-/

namespace Parley

/-- Why a playthrough stopped. -/
inductive PlayOutcome where
  /-- The node that is shown offers nothing. -/
  | deadEnd
  /-- The policy declined to pick. -/
  | policyIdle
  /-- An action made no move. -/
  | stalled
  /-- There was no key left to draw. -/
  | exhausted
  | turnLimit
deriving DecidableEq

/-- The name of an outcome. -/
def PlayOutcome.name : PlayOutcome → String
  | .deadEnd => "DeadEnd"
  | .policyIdle => "PolicyIdle"
  | .stalled => "Stalled"
  | .exhausted => "Exhausted"
  | .turnLimit => "TurnLimit"

/-- A playthrough that came to its end. -/
structure Playthrough where
  transcript : List String
  outcome : PlayOutcome
  /-- How many selections led to another node. -/
  turns : Nat
deriving DecidableEq

namespace Playthrough

variable {π : Type}

/-- The line of the transcript for a selection. -/
def pickLine (page : Page) (pick : Option Pick) : List String :=
  ((pick.bind page.describe).map ("  > " ++ ·)).toList

/-- The turns from the node that is shown, at most `remaining` more. `turns` is their number so
far. The character comes back with its new state, also when an error ends the playthrough. -/
def turnsFrom [Policy π] : (remaining : Nat) → (turns : Nat) → Conversation (Automated π) → Npc →
    Except DialogueError Playthrough × Npc
  | 0, turns, c, npc => (.ok ⟨c.surface.page.texts, .turnLimit, turns⟩, npc)
  | remaining + 1, turns, c, npc =>
    let page := c.surface.page
    let (result, c, npc) := c.handleEvent npc .tick
    let (pick, surface) := c.surface.takePick
    let c := { c with surface }
    let lines := page.texts ++ pickLine page pick
    match result with
    | .ok (some (.presenting _)) =>
      let (rest, npc) := turnsFrom remaining (turns + 1) c npc
      (rest.map fun p => { p with transcript := lines ++ p.transcript }, npc)
    | .ok (some .stalled) => (.ok ⟨lines, .stalled, turns⟩, npc)
    | .ok none => (.ok ⟨lines, if page.isStalled then .deadEnd else .policyIdle, turns⟩, npc)
    | .error .frontierExhausted => (.ok ⟨lines, .exhausted, turns⟩, npc)
    | .error e => (.error e, npc)

/-- Plays a conversation with a character from a random entry node on. -/
def play [Policy π] (npc : Npc) (collections : Collections) (entryKeys : List Key) (policy : π)
    (source : Random.Source) (maxTurns : Nat) : Except DialogueError Playthrough × Npc :=
  let c := (Conversation.create (Automated.blank policy) collections source).startSession entryKeys
  match c.visitRandom npc with
  | (.ok (), c) => turnsFrom maxTurns 0 c npc
  | (.error .frontierExhausted, _) => (.ok ⟨[], .exhausted, 0⟩, npc)
  | (.error e, _) => (.error e, npc)

end Playthrough

end Parley
