import Parley.Proofs.Conversation.Coherence

/-!
# Conversations at a terminal

At a terminal only the conversation itself handles selections, so every selection that is reported
is one of the live episode. `Awaits` is the state in which a node waits for one, and `Reply` tells
what can become of an event in that state (`Awaits.reply`): a protocol violation cannot.
-/

namespace Parley.Conversation

/-- A node is presented on a terminal that takes gestures. -/
structure Awaits (c : Conversation Terminal) : Prop where
  presenting : c.phase = .presenting
  unspent : c.surface.mode ≠ .spent
  shown : ∃ e, c.episode = some e ∧ e.ShownOn c.surface.page

/-- A node that was just shown waits for a selection. -/
lemma showing_awaits (c : Conversation Terminal) (npc : Npc) (key : Key) (node : Node)
    (items : Option (List Item × (Item → Action))) : (c.showing npc key node items).Awaits where
  presenting := rfl
  unspent := by
    rw [showing, mode_display]
    intro spent
    cases spent
  shown := ⟨_, rfl, showing_displayed c npc key node items _ rfl⟩

/-- Requests that made a move leave a node that waits for a selection. -/
lemma Follow.awaits {c : Conversation Terminal} {npc requests soFar r}
    (f : Follow npc c requests soFar r) (before : ∀ key, soFar = .presenting key → c.Awaits)
    {key : Key} (moved : r.1 = .ok (.presenting key)) : r.2.Awaits := by
  refine f.holds showing_awaits ?_ before moved
  intro c key awaits
  exact ⟨awaits.presenting, awaits.unspent, awaits.shown⟩

/-- An event that selects nothing leaves the node waiting. -/
lemma Awaits.heard {c : Conversation Terminal} {event : InputEvent} (awaits : c.Awaits)
    (silent : (Surface.respond c.surface event).1 = none) : (c.heard event).Awaits where
  presenting := awaits.presenting
  unspent := Terminal.respond_unspent silent awaits.unspent
  shown := by
    obtain ⟨e, live, shown⟩ := awaits.shown
    have same : (c.heard event).surface.page = c.surface.page :=
      LawfulSurface.page_respond c.surface event
    rw [same]
    exact ⟨e, live, shown⟩

/-- Whatever the terminal reports is accepted. -/
lemma Awaits.accepts {c : Conversation Terminal} {event : InputEvent} {s : Selection}
    (awaits : c.Awaits) (reported : (Surface.respond c.surface event).1 = some s) :
    ∃ action, (c.heard event).accept s = .ok action := by
  obtain ⟨e, live, shown⟩ := awaits.shown
  -- the episode that waits is the live one, of which there is only one
  have displayed : c.Displayed := by
    intro e' live'
    rw [live] at live'
    cases live'
    exact shown
  have going_on : c.phase ≠ .ended := by
    rw [awaits.presenting]
    exact nofun
  obtain ⟨action, _, accepted⟩ := displayed.accepts going_on live reported
  exact ⟨action, accepted⟩

/-- What can become of an event while a node waits for a selection of `npc`. -/
inductive Reply (npc : Npc) :
    Except DialogueError (Option Transition) × Conversation Terminal × Npc → Prop where
  | silent {c'} :
    c'.Awaits →
    Reply npc (.ok none, c', npc)
  | moved {c' action key} :
    c'.Awaits →
    Reply npc (.ok (some (.presenting key)), c', npc.acted action)
  | stalled {c' action} :
    Reply npc (.ok (some .stalled), c', npc.acted action)
  | failed {c' action e} :
    e.Navigational →
    Reply npc (.error e, c', npc.acted action)

/-- An action whose requests are followed does not break the protocol. -/
lemma Reply.follow {c : Conversation Terminal} (live : c.phase ≠ .ended) (npc : Npc)
    (action : Action) (requests : List Navigation) :
    Reply npc ((c.follow (npc.acted action) requests .stalled).1.map some,
      (c.follow (npc.acted action) requests .stalled).2, npc.acted action) := by
  have f := c.follow_inv (npc.acted action) requests .stalled
  generalize c.follow (npc.acted action) requests .stalled = r at f ⊢
  obtain ⟨result, c'⟩ := r
  cases result with
  | error e => exact .failed (f.error_navigational live rfl)
  | ok outcome =>
    cases outcome with
    | stalled => exact .stalled
    | presenting key => exact .moved (f.awaits nofun rfl)

/-- While a node waits for a selection, events end in one of the ways of `Reply`. -/
lemma Awaits.reply {c : Conversation Terminal} (awaits : c.Awaits) (npc : Npc)
    (event : InputEvent) : Reply npc (c.handleEvent npc event) := by
  cases reported : (Surface.respond c.surface event).1 with
  | none =>
    rw [handleEvent_silent reported]
    exact .silent (awaits.heard reported)
  | some s =>
    obtain ⟨action, accepted⟩ := awaits.accepts reported
    rw [handleEvent_reported reported, select_accepted accepted]
    exact .follow (c.heard event).consumed_open npc action _

end Parley.Conversation
