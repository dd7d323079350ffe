import Parley.Dialogue.Frontier
import Parley.Dialogue.Graph
import Parley.Surface.Basic

/-!
# Conversations

A conversation walks through the graph of a character. It shows one node at a time on a surface, as
an episode; a selection of that episode runs the action behind it, and the requests of the action
decide which node is shown next. Every episode has a number of its own, so that a selection of an
older one is never taken for one of the live episode.
-/

namespace Parley

/-- Where a conversation stands between two events. -/
inductive Phase where
  /-- No node is shown that waits for a selection. -/
  | idle
  /-- A node is shown and waits for one selection. -/
  | presenting
  /-- The session was ended. -/
  | ended
deriving DecidableEq

/-- The outcome of a selection. -/
inductive Transition where
  /-- The node under this key is shown now. -/
  | presenting (key : Key)
  /-- The action made no move. -/
  | stalled
deriving DecidableEq

/-- A node that is shown: its number and key, and the actions behind its offers. -/
structure Episode where
  id : Nat
  key : Key
  actions : List Action
  present : Option (List Item × (Item → Action))

/-- The action behind a selection of an episode. -/
def Episode.accept (e : Episode) (s : Selection) : Except Violation Action :=
  if s.episode ≠ e.id then .error (.otherEpisode s.episode e.id)
  else
    match s with
    | .choice handle =>
      match e.actions[handle.index]? with
      | some action => .ok action
      | none => .error (.choiceOutOfRange handle.index e.actions.length)
    | .present _ item =>
      match e.present with
      | some (items, action) =>
        if item ∈ items then .ok (action item) else .error (.notOffered item)
      | none => .error .nothingToPresent

/-- A conversation on a surface. -/
structure Conversation (σ : Type) where
  surface : σ
  collections : Collections
  frontier : Frontier
  source : Random.Source
  phase : Phase
  episode : Option Episode
  /-- How many episodes there were so far; the last one has this number. -/
  episodesStarted : Nat

namespace Conversation

variable {σ : Type}

/-- A conversation before its first session. -/
def create (surface : σ) (collections : Collections) (source : Random.Source) : Conversation σ :=
  ⟨surface, collections, .empty, source, .idle, none, 0⟩

/-- The key of the node that waits for a selection. -/
def currentKey (c : Conversation σ) : Option Key := c.episode.map (·.key)

/-- Starts a session: the frontier holds the entry keys, and no node is shown. -/
def startSession (c : Conversation σ) (entryKeys : List Key) : Conversation σ :=
  { c with frontier := ⟨entryKeys⟩, episode := none, phase := .idle }

/-- Ends the session and clears the surface. -/
def endSession [Surface σ] (c : Conversation σ) : Conversation σ :=
  { c with episode := none, phase := .ended, surface := Surface.reset c.surface }

/-! ## Showing nodes -/

/-- Adds choices to a surface, with handles that count from `index` on. -/
def addChoices [Surface σ] (id : Nat) : List Choice → (index : Nat) → σ → σ
  | [], _, s => s
  | choice :: rest, index, s =>
    addChoices id rest (index + 1) (Surface.addChoice s choice.label ⟨id, index⟩)

/-- Shows an episode on a surface: its text, its choices, and the items that can be presented. -/
def display [Surface σ] (s : σ) (id : Nat) (text : String) (choices : List Choice)
    (items : Option (List Item)) : σ :=
  let s := addChoices id choices 0 (Surface.addText (Surface.reset s) text)
  match items with
  | some items => Surface.addPresent s items ⟨id⟩
  | none => s

/-- The items of a presentation together with its action. -/
def collect (c : Collections) :
    Option Presentation → Except DialogueError (Option (List Item × (Item → Action)))
  | none => .ok none
  | some p =>
    match c.resolve? p.collection with
    | some items => .ok (some (items, p.action))
    | none => .error (.unsupportedCollection p.collection)

/-- Shows the node under a key as a new episode. On an error at most the source of random numbers
has changed. -/
def present [Surface σ] (c : Conversation σ) (npc : Npc) (key : Key) :
    Except DialogueError Unit × Conversation σ :=
  match npc.graph.lookup key with
  | .error e => (.error e, c)
  | .ok node =>
    let (text, source) := node.utter npc.speaker c.source
    let offer := node.offer npc.speaker
    match collect c.collections offer.presentation with
    | .error e => (.error e, { c with source })
    | .ok present =>
      let id := c.episodesStarted + 1
      (.ok (),
        { c with
          surface := display c.surface id text offer.choices (present.map (·.1))
          source
          phase := .presenting
          episode := some ⟨id, key, offer.choices.map (·.action), present⟩
          episodesStarted := id })

/-- Takes a key out of the frontier and shows its node; on an error the key is put back. -/
def visit [Surface σ] (c : Conversation σ) (npc : Npc) (key : Key) :
    Except DialogueError Unit × Conversation σ :=
  if c.phase = .ended then (.error .sessionEnded, c)
  else
    let place := c.frontier.position? key
    match present { c with frontier := c.frontier.remove key } npc key with
    | (.ok (), shown) => (.ok (), shown)
    | (.error e, failed) =>
      (.error e, { failed with frontier := failed.frontier.restore key place })

/-- Draws a key from the frontier, where it stays. -/
def drawKey (c : Conversation σ) : Except DialogueError Key × Conversation σ :=
  match c.frontier.pick c.source with
  | (some key, source) => (.ok key, { c with source })
  | (none, source) => (.error .frontierExhausted, { c with source })

/-- Draws a key and visits it. -/
def visitDrawn [Surface σ] (c : Conversation σ) (npc : Npc) :
    Except DialogueError Key × Conversation σ :=
  match c.drawKey with
  | (.error e, c) => (.error e, c)
  | (.ok key, c) =>
    match c.visit npc key with
    | (.ok (), c) => (.ok key, c)
    | (.error e, c) => (.error e, c)

/-- Visits a random key of the frontier. -/
def visitRandom [Surface σ] (c : Conversation σ) (npc : Npc) :
    Except DialogueError Unit × Conversation σ :=
  if c.phase = .ended then (.error .sessionEnded, c)
  else
    match c.visitDrawn npc with
    | (.ok _, c) => (.ok (), c)
    | (.error e, c) => (.error e, c)

/-! ## Selections -/

/-- Carries out requests in order, up to the first that fails. The last move counts; `soFar` is the
outcome of the requests before. -/
def follow [Surface σ] (c : Conversation σ) (npc : Npc) :
    List Navigation → (soFar : Transition) → Except DialogueError Transition × Conversation σ
  | [], soFar => (.ok soFar, c)
  | .restart key :: rest, soFar =>
    follow { c with frontier := c.frontier.push key } npc rest soFar
  | .jump key :: rest, _ =>
    match c.visit npc key with
    | (.ok (), c) => follow c npc rest (.presenting key)
    | (.error e, c) => (.error e, c)
  | .resume :: rest, _ =>
    match c.visitDrawn npc with
    | (.ok key, c) => follow c npc rest (.presenting key)
    | (.error e, c) => (.error e, c)

/-- The action behind a selection of the live episode. -/
def accept (c : Conversation σ) (s : Selection) : Except Violation Action :=
  if c.phase = .ended then .error .afterEnd
  else
    match c.episode with
    | none => .error .nothingShown
    | some episode => episode.accept s

/-- Runs the action behind a selection and follows its requests; the character comes back with its
new state. A selection that is not accepted changes nothing. -/
def select [Surface σ] (c : Conversation σ) (npc : Npc) (s : Selection) :
    Except DialogueError Transition × Conversation σ × Npc :=
  match c.accept s with
  | .error violation => (.error (.protocolViolation violation), c, npc)
  | .ok action =>
    let (state, requests) := action npc.state
    let npc := { npc with state }
    let (result, c) := follow { c with episode := none, phase := .idle } npc requests .stalled
    (result, c, npc)

/-- Hands an event to the surface and follows the selection that it reports, if any. -/
def handleEvent [Surface σ] (c : Conversation σ) (npc : Npc) (event : InputEvent) :
    Except DialogueError (Option Transition) × Conversation σ × Npc :=
  match Surface.respond c.surface event with
  | (none, surface) => (.ok none, { c with surface }, npc)
  | (some selection, surface) =>
    let (result, c, npc) := select { c with surface } npc selection
    (result.map some, c, npc)

end Conversation

end Parley
