import Parley.Proofs.Dialogue.Counter
import Parley.Proofs.Scenario.Builtin

/-!
# Encounters with the noblewoman

An encounter is a conversation together with the noblewoman in her present state, and a move is one
thing that can be done about it: to set up a conversation, to start a session, to select what the
page offers, to hand on an event, or to leave. `Step` tells all that can come of a move, and `Sound`
is the invariant of encounters, over any number of conversations: between the moves either nothing
is shown, or the conversation is at a place, and her state counts what was presented to her.
-/

namespace Parley

/-- Whether a selection presents something. -/
def Selection.isPresent : Selection → Bool
  | .choice _ => false
  | .present _ _ => true

end Parley

namespace Parley.Builtin

/-! ## The counter -/

/-- What a counter holds that was raised `n` times, and never before. -/
def counted (n : Nat) : Option Json.Value :=
  if n = 0 then none else some (.ofInt (min (n : Int) Decimal.maxSigned))

/-- The counter counts as often as it was raised, as far as that fits. -/
lemma counts_of_counted {state : State} {n : Nat} (held : state.get? "presented" = counted n) :
    state.Counts "presented" (min (n : Int) Decimal.maxSigned) := by
  rw [counted] at held
  split at held
  · rename_i unraised
    subst unraised
    exact .without fun v => by rw [held]; nofun
  · exact .holds held

/-- Raising the counter once more. -/
lemma get?_increment {state : State} {n : Nat} (held : state.get? "presented" = counted n) :
    (state.increment "presented" 1).get? "presented" = counted (n + 1) := by
  have fits : Decimal.isSigned (min (n : Int) Decimal.maxSigned) = true := by
    rw [State.isSigned_iff, Decimal.minSigned, Decimal.maxSigned]
    omega
  have raised : Decimal.clampSigned (min (n : Int) Decimal.maxSigned + 1) =
      min ((n + 1 : Nat) : Int) Decimal.maxSigned := by
    rw [Decimal.clampSigned, Decimal.minSigned, Decimal.maxSigned]
    omega
  rw [State.get?_increment_self, (counts_of_counted held).incremented fits, raised]
  rfl

/-- A reaction raises the counter once if something was presented. -/
lemma Reaction.counts {p q : Place} {state state' : State} {s : Selection}
    (reaction : Reaction p state s state' q) {n : Nat}
    (held : state.get? "presented" = counted n) :
    state'.get? "presented" = counted (n + if s.isPresent then 1 else 0) := by
  cases reaction with
  | choice _ => exact held
  | present _ _ => exact get?_increment held

/-! ## Moves -/

section Moves

variable {σ : Type} [Surface σ]

/-- A surface that shows nothing yet. -/
structure Bare (σ : Type) [Surface σ] where
  surface : σ
  empty : Surface.page surface = .empty

/-- A conversation, and the noblewoman in her present state. -/
structure Encounter (σ : Type) where
  conversation : Conversation σ
  npc : Npc

/-- What can be done about an encounter. -/
inductive Move (σ : Type) [Surface σ] where
  /-- Set up another conversation, on a surface of its own. -/
  | meet (bare : Bare σ) (source : Random.Source)
  /-- Start a session at a random entry key. -/
  | start
  /-- Select the option behind a pick, if the page has it. -/
  | choose (pick : Pick)
  /-- Hand an event to the surface. -/
  | event (event : InputEvent)
  /-- End the session. -/
  | leave

/-- A conversation of the scenario that was just set up. -/
def Bare.conversation (bare : Bare σ) (source : Random.Source) : Conversation σ :=
  .create bare.surface Scenario.builtin.collections source

/-- The first encounter, before its first session. -/
def Encounter.first (bare : Bare σ) (source : Random.Source) : Encounter σ :=
  ⟨bare.conversation source, catelyn⟩

namespace Encounter

/-- The selection that a move makes. -/
def selection? (x : Encounter σ) : Move σ → Option Selection
  | .choose pick => (Surface.page x.conversation.surface).selectionFor pick
  | .event event => (Surface.respond x.conversation.surface event).1
  | .meet _ _ | .start | .leave => none

/-- Makes a move, with the transition that it leads to, if any. -/
def perform (x : Encounter σ) : Move σ → Except DialogueError (Option Transition) × Encounter σ
  | .meet bare source => (.ok none, { x with conversation := bare.conversation source })
  | .start =>
    let (result, conversation) :=
      (x.conversation.startSession Scenario.builtin.entryKeys).visitRandom x.npc
    (result.map fun _ => none, { x with conversation })
  | .choose pick =>
    match (Surface.page x.conversation.surface).selectionFor pick with
    | some s =>
      let (result, conversation, npc) := x.conversation.select x.npc s
      (result.map some, ⟨conversation, npc⟩)
    | none => (.ok none, x)
  | .event event =>
    let (result, conversation, npc) := x.conversation.handleEvent x.npc event
    (result, ⟨conversation, npc⟩)
  | .leave => (.ok none, { x with conversation := x.conversation.endSession })

/-- The encounter after a move. -/
def after (x : Encounter σ) (move : Move σ) : Encounter σ := (x.perform move).2

/-- The encounter after several moves. -/
def run (x : Encounter σ) (moves : List (Move σ)) : Encounter σ := moves.foldl after x

/-- Whether a move presents something and is accepted. -/
def presents (x : Encounter σ) (move : Move σ) : Bool :=
  (x.selection? move).any fun s => s.isPresent && (x.conversation.accept s).isOk

/-- How many of several moves present something and are accepted. -/
def presented (x : Encounter σ) : List (Move σ) → Nat
  | [] => 0
  | move :: rest => (if x.presents move then 1 else 0) + (x.after move).presented rest

end Encounter

/-! ## What comes of a move -/

/-- Nothing is shown. -/
structure Clear (c : Conversation σ) : Prop where
  collections : c.collections = Scenario.builtin.collections
  episode : c.episode = none
  page : Surface.page c.surface = .empty

/-- The conversation shows nothing, or is at a place. -/
inductive Stands (c : Conversation σ) : Prop where
  | clear : Clear c → Stands c
  | placed (p : Place) : At p c → Stands c

/-- What can come of a move that makes this selection. -/
inductive Step (x : Encounter σ) :
    Option Selection → Except DialogueError (Option Transition) × Encounter σ → Prop where
  | cleared {c} :
    Clear c →
    Step x none (.ok none, { x with conversation := c })
  | started {p c} :
    At p c →
    p ≠ .win →
    Step x none (.ok none, { x with conversation := c })
  | kept {p c} :
    At p c →
    c.episode = x.conversation.episode →
    Step x none (.ok none, { x with conversation := c })
  | moved {p q s state c action} :
    At p x.conversation →
    x.conversation.accept s = .ok action →
    Reaction p x.npc.state s state q →
    At q c →
    Step x (some s) (.ok (some (.presenting q.key)), ⟨c, { x.npc with state }⟩)

/-- What holds of an encounter in which `n` presentations were accepted. -/
structure Sound (n : Nat) (x : Encounter σ) : Prop where
  graph : x.npc.graph = graph
  counter : x.npc.state.get? "presented" = counted n
  stands : Stands x.conversation

/-- The collections of an encounter are always those of the scenario. -/
lemma Stands.collections {c : Conversation σ} (stands : Stands c) :
    c.collections = Scenario.builtin.collections := by
  cases stands with
  | clear clear => exact clear.collections
  | placed p here => exact here.collections

/-- A new conversation shows nothing. -/
lemma Bare.clear (bare : Bare σ) (source : Random.Source) : Clear (bare.conversation source) :=
  ⟨rfl, rfl, bare.empty⟩

/-- In a new encounter nothing was presented yet. -/
lemma first_sound (bare : Bare σ) (source : Random.Source) :
    Sound 0 (Encounter.first bare source) where
  graph := rfl
  counter := rfl
  stands := .clear (bare.clear source)

/-- A move keeps an encounter sound, and is counted if it presents something. -/
lemma Step.sound {x : Encounter σ} {n : Nat} {s : Option Selection} {r}
    (st : Step x s r) (sound : Sound n x) :
    Sound (n + if s.any Selection.isPresent then 1 else 0) r.2 := by
  cases st with
  | cleared clear => exact ⟨sound.graph, sound.counter, .clear clear⟩
  | started there _ => exact ⟨sound.graph, sound.counter, .placed _ there⟩
  | kept here _ => exact ⟨sound.graph, sound.counter, .placed _ here⟩
  | moved _ _ reaction there => exact ⟨sound.graph, reaction.counts sound.counter, .placed _ there⟩

/-- What comes of a move is a success, and not a stall. -/
lemma Step.succeeds {x : Encounter σ} {s : Option Selection} {r} (st : Step x s r) :
    ∃ outcome, r.1 = .ok outcome ∧ outcome ≠ some .stalled := by
  cases st with
  | moved _ _ _ _ => exact ⟨_, rfl, nofun⟩
  | _ => exact ⟨none, rfl, nofun⟩

/-- What a move selects is accepted. -/
lemma Step.accepted {x : Encounter σ} {s : Selection} {r} (st : Step x (some s) r) :
    ∃ action, x.conversation.accept s = .ok action := by
  cases st with
  | moved _ accepted _ _ => exact ⟨_, accepted⟩

/-- A move leads to the win only from the first node, by presenting pants. -/
lemma Step.won {x : Encounter σ} {s : Option Selection} {r} (st : Step x s r)
    (won : r.2.conversation.currentKey = some Place.win.key) :
    r.2.conversation.episode = x.conversation.episode ∨
      (x.conversation.currentKey = some .entry ∧
        ∃ handle, s = some (.present handle ⟨"pants"⟩)) := by
  have placed {p : Place} {c : Conversation σ} (there : At p c)
      (won : c.currentKey = some Place.win.key) : p = .win :=
    Place.key_injective (Option.some.inj (there.current.symm.trans won))
  cases st with
  | cleared clear =>
    rw [Conversation.currentKey, clear.episode] at won
    cases won
  | started there lost => exact absurd (placed there won) lost
  | kept _ same => exact .inl same
  | moved here _ reaction there =>
    cases reaction with
    | choice lost => exact absurd (placed there won) lost
    | present first pants =>
      subst first
      exact .inr ⟨here.current, _, by rw [pants (placed there won)]⟩

variable [LawfulSurface σ]

/-- All that can come of a move in a sound encounter. -/
lemma Sound.step {x : Encounter σ} {n : Nat} (sound : Sound n x) (move : Move σ) :
    Step x (x.selection? move) (x.perform move) := by
  cases move with
  | meet bare source => exact .cleared (bare.clear source)
  | start =>
    obtain ⟨p, c', started, there, lost⟩ := start_at sound.graph sound.stands.collections
    rw [Encounter.perform, started]
    exact .started there lost
  | leave =>
    exact .cleared ⟨sound.stands.collections, rfl, LawfulSurface.page_reset x.conversation.surface⟩
  | choose pick =>
    rw [Encounter.selection?, Encounter.perform]
    cases sound.stands with
    | clear clear =>
      rw [clear.page, Page.selectionFor_empty]
      exact .cleared clear
    | placed p here =>
      cases offered : (Surface.page x.conversation.surface).selectionFor pick with
      | none => exact .kept here rfl
      | some s =>
        obtain ⟨q, state, c', action, accepted, selected, reaction, there⟩ :=
          here.select sound.graph offered
        dsimp only
        rw [selected]
        exact .moved here accepted reaction there
  | event event =>
    rw [Encounter.selection?, Encounter.perform]
    cases sound.stands with
    | clear clear =>
      -- an event can select only what the page offers, and an empty page offers nothing
      have silent : (Surface.respond x.conversation.surface event).1 = none := by
        cases reported : (Surface.respond x.conversation.surface event).1 with
        | none => rfl
        | some s =>
          obtain ⟨pick, offered⟩ := LawfulSurface.respond_offered reported
          rw [clear.page, Page.selectionFor_empty] at offered
          cases offered
      rw [silent, Conversation.handleEvent_silent silent]
      exact .cleared ⟨clear.collections, clear.episode,
        (LawfulSurface.page_respond x.conversation.surface event).trans clear.page⟩
    | placed p here =>
      obtain ⟨silent, stays, kept⟩ |
        ⟨s, q, state, c', action, reported, accepted, moved, reaction, there⟩ :=
        here.event sound.graph event
      · rw [silent, kept]
        exact .kept stays rfl
      · rw [reported, moved]
        exact .moved here accepted reaction there

/-- In a sound encounter, what is presented is accepted. -/
lemma Sound.presents {x : Encounter σ} {n : Nat} (sound : Sound n x) (move : Move σ) :
    x.presents move = (x.selection? move).any Selection.isPresent := by
  have st := sound.step move
  rw [Encounter.presents]
  generalize x.selection? move = s at st
  cases s with
  | none => rfl
  | some s =>
    obtain ⟨action, accepted⟩ := st.accepted
    rw [Option.any_some, Option.any_some, accepted]
    exact Bool.and_true _

/-- Encounters stay sound over any moves. -/
lemma Sound.run {x : Encounter σ} {n : Nat} (sound : Sound n x) (moves : List (Move σ)) :
    Sound (n + x.presented moves) (x.run moves) := by
  induction moves generalizing x n with
  | nil => exact sound
  | cons move rest ih =>
    have next := (sound.step move).sound sound
    rw [← sound.presents move] at next
    rw [Encounter.presented, ← Nat.add_assoc]
    exact ih next

/-- What holds of an encounter in which `n` presentations were accepted, and of its next move. -/
structure Unbroken (n : Nat) (x : Encounter σ) (move : Move σ) : Prop where
  /-- The move succeeds, and if it selects something then not with a stall. -/
  succeeds : ∃ outcome, (x.perform move).1 = .ok outcome ∧ outcome ≠ some .stalled
  /-- What the page offers is accepted. -/
  accepted : ∀ s, x.selection? move = some s → ∃ action, x.conversation.accept s = .ok action
  /-- A node that is shown is one of six, each with its key in the frontier. -/
  placed : ∀ key, x.conversation.currentKey = some key →
    ∃ p : Place, p.key = key ∧ x.conversation.frontier.keys = [p.waiting]
  /-- The win has neither choices nor a presentation, and any other node has an option. -/
  options : ∀ key, x.conversation.currentKey = some key →
    (key = Place.win.key ∧ (Surface.page x.conversation.surface).isStalled = true) ∨
      (key ≠ Place.win.key ∧
        ∃ pick s, (Surface.page x.conversation.surface).selectionFor pick = some s)
  /-- The win is shown only when pants were presented at the first node. -/
  won : (x.after move).conversation.currentKey = some Place.win.key →
    (x.after move).conversation.episode = x.conversation.episode ∨
      (x.conversation.currentKey = some .entry ∧
        ∃ handle, x.selection? move = some (.present handle ⟨"pants"⟩))
  /-- The counter counts the presentations. -/
  counter : x.npc.state.get? "presented" = counted n

/-- Nothing breaks in a sound encounter. -/
lemma Sound.unbroken {x : Encounter σ} {n : Nat} (sound : Sound n x) (move : Move σ) :
    Unbroken n x move where
  succeeds := (sound.step move).succeeds
  accepted s selected := by
    have st := sound.step move
    rw [selected] at st
    exact st.accepted
  placed key shown := by
    cases sound.stands with
    | clear clear =>
      rw [Conversation.currentKey, clear.episode] at shown
      cases shown
    | placed p here => exact ⟨p, Option.some.inj (here.current.symm.trans shown), here.frontier⟩
  options key shown := by
    cases sound.stands with
    | clear clear =>
      rw [Conversation.currentKey, clear.episode] at shown
      cases shown
    | placed p here =>
      obtain rfl := Option.some.inj (here.current.symm.trans shown)
      obtain ⟨rfl, page⟩ | ⟨lost, option⟩ := here.options
      · exact .inl ⟨rfl, by rw [page]; rfl⟩
      · exact .inr ⟨fun same => lost (Place.key_injective same), option⟩
  won won := (sound.step move).won won
  counter := sound.counter

/-- Encounters with the noblewoman never break, on any lawful surface, for any seeds, and over any
moves that the pages offer, in any number of conversations: `Unbroken` holds at every moment and of
every next move. A playthrough with her, as she is by then, does not break off either. -/
theorem encounter_unbroken (bare : Bare σ) (source : Random.Source) (moves : List (Move σ))
    (move : Move σ) :
    let first := Encounter.first bare source
    Unbroken (first.presented moves) (first.run moves) move ∧
      ∀ {π : Type} [Policy π] (policy : π) (source : Random.Source) (maxTurns : Nat),
        ∃ p, (Playthrough.play (first.run moves).npc Scenario.builtin.collections
            Scenario.builtin.entryKeys policy source maxTurns).1 = .ok p ∧
          (p.outcome = .deadEnd ∧ p.transcript.getLast? = some "you win" ∨
            p.outcome = .policyIdle ∨ p.outcome = .turnLimit) := by
  intro first
  have sound := (first_sound bare source).run moves
  rw [Nat.zero_add] at sound
  exact ⟨sound.unbroken move, play_ends sound.graph⟩

end Moves

/-- With this seed the first node is the one that asks for things: presenting pants there counts
once, and shows the win. -/
theorem encounter_unbroken_pants :
    let bare : Bare Terminal := ⟨.blank, rfl⟩
    let first := Encounter.first bare (.ofSeed 2)
    let moves := [.start, .choose (.present 1)]
    first.presented moves = 1 ∧
      (first.run moves).conversation.currentKey = some Place.win.key ∧
      Unbroken 1 (first.run moves) .leave := by
  intro bare first moves
  have won : first.presented moves = 1 ∧
      (first.run moves).conversation.currentKey = some Place.win.key := by decide +kernel
  obtain ⟨unbroken, _⟩ := encounter_unbroken bare (.ofSeed 2) moves .leave
  rw [won.1] at unbroken
  exact ⟨won.1, won.2, unbroken⟩

end Parley.Builtin
