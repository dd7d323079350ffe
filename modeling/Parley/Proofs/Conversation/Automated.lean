import Parley.Proofs.Conversation.Coherence

/-!
# Conversations on automated surfaces

While a node waits for a selection on an automated surface (`Poised`), an event lets the policy
pick: it declines, or it picks what the page does not offer, or the selection behind its pick is
accepted and followed (`Turn`). Showing a node keeps the policy and the pick that was not yet taken,
so after a selection the pick behind it can be taken, and if the conversation moved then the next
node waits.
-/

namespace Parley.Conversation

/-- What showing an episode keeps of a surface, requests keep of it. -/
lemma Follow.keeps {σ α : Type} [Surface σ] (view : σ → α)
    (kept : ∀ s id text choices items, view (display s id text choices items) = view s)
    {c : Conversation σ} {npc requests soFar r} (f : Follow npc c requests soFar r) :
    view r.2.surface = view c.surface := by
  refine f.persists (P := fun c' => view c'.surface = view c.surface) ⟨?_, ?_, ?_⟩ rfl
  · exact fun _ _ same => same
  · exact fun _ _ same => same
  · exact fun _ _ _ _ _ same => (kept _ _ _ _ _).trans same

variable {π : Type} [Policy π]

/-- Showing an episode makes the surface take events, and keeps its policy and the last pick. -/
lemma display_automated (a : Automated π) (id : Nat) (text : String) (choices : List Choice)
    (items : Option (List Item)) :
    (display a id text choices items).spent = false ∧
      (display a id text choices items).policy = a.policy ∧
      (display a id text choices items).lastPick = a.lastPick := by
  have kept : ∀ (choices : List Choice) (index : Nat) (a : Automated π),
      (addChoices id choices index a).spent = a.spent ∧
        (addChoices id choices index a).policy = a.policy ∧
        (addChoices id choices index a).lastPick = a.lastPick := by
    intro choices
    induction choices with
    | nil => exact fun _ _ => ⟨rfl, rfl, rfl⟩
    | cons choice rest ih => exact fun index a => ih (index + 1) _
  cases items with
  | none => exact kept choices 0 _
  | some items => exact kept choices 0 _

/-- A node waits for a selection on an automated surface that takes events. -/
structure Poised (c : Conversation (Automated π)) : Prop where
  presenting : c.phase = .presenting
  fresh : c.surface.spent = false
  shown : ∃ e, c.episode = some e ∧ e.ShownOn c.surface.page

/-- A node that is shown waits for a selection. -/
lemma showing_poised (c : Conversation (Automated π)) (npc : Npc) (key : Key) (node : Node)
    (items : Option (List Item × (Item → Action))) : (c.showing npc key node items).Poised where
  presenting := rfl
  fresh := (display_automated _ _ _ _ _).1
  shown := ⟨_, rfl, showing_displayed c npc key node items _ rfl⟩

/-- Requests that moved leave the node of the last move waiting for a selection. -/
lemma Follow.poised {c : Conversation (Automated π)} {npc requests soFar r}
    (f : Follow npc c requests soFar r) (before : ∀ key, soFar = .presenting key → c.Poised)
    {key : Key} (moved : r.1 = .ok (.presenting key)) : r.2.Poised := by
  refine f.holds showing_poised ?_ before moved
  intro c key poised
  exact ⟨poised.presenting, poised.fresh, poised.shown⟩

/-- The policy picks an option of the page, and the selection behind the pick is reported and
accepted. -/
structure Selects (c : Conversation (Automated π)) (pick : Pick) : Prop where
  picked : (Policy.pick c.surface.policy c.surface.page).1 = some pick
  accepted : ∃ s action, c.surface.page.selectionFor pick = some s ∧
    c.surface.respond.1 = some s ∧ c.accept s = .ok action

/-- What can become of an event while a node waits for a selection: the policy gets nothing
selected, or it gets its pick selected, which can then be taken. -/
inductive Turn (c : Conversation (Automated π)) (npc : Npc) : Option Pick →
    Except DialogueError (Option Transition) × Conversation (Automated π) × Npc → Prop where
  | declined {c'} :
    c.surface.respond.1 = none →
    c'.surface.lastPick = c.surface.lastPick →
    Turn c npc none (.ok none, c', npc)
  | moved {pick key c' npc'} :
    c.Selects pick →
    c'.surface.lastPick = some pick →
    c'.Poised →
    Turn c npc (some pick) (.ok (some (.presenting key)), c', npc')
  | stalled {pick c' npc'} :
    c.Selects pick →
    c'.surface.lastPick = some pick →
    Turn c npc (some pick) (.ok (some .stalled), c', npc')
  | failed {pick e c' npc'} :
    c.Selects pick →
    c'.surface.lastPick = some pick →
    e.Navigational →
    Turn c npc (some pick) (.error e, c', npc')

/-- While a node waits for a selection, events end in one of the ways of `Turn`. -/
lemma Poised.turn {c : Conversation (Automated π)} (poised : c.Poised) (npc : Npc) :
    ∃ pick, Turn c npc pick (c.handleEvent npc .tick) := by
  have answer := Automated.respond_inv poised.fresh
  generalize answered : c.surface.respond = r at answer
  cases answer with
  | declined _ _ =>
    have silent : (Surface.respond c.surface .tick).1 = none := congrArg Prod.fst answered
    have after : (c.heard .tick).surface = _ := congrArg Prod.snd answered
    rw [handleEvent_silent silent]
    refine ⟨none, .declined silent ?_⟩
    rw [after]
  | @selected pick policy s picked offered =>
    have reported : (Surface.respond c.surface .tick).1 = some s := congrArg Prod.fst answered
    have after : (c.heard .tick).surface = _ := congrArg Prod.snd answered
    obtain ⟨e, live, shown⟩ := poised.shown
    obtain ⟨action, accepted⟩ := shown.accepts offered
    have going_on : c.phase ≠ .ended := by
      rw [poised.presenting]
      exact nofun
    have honoured : c.accept s = .ok action := (accept_of_live going_on live s).trans accepted
    have selects : c.Selects pick :=
      ⟨congrArg Prod.fst picked, s, action, offered, reported, honoured⟩
    have same : (c.heard .tick).accept s = .ok action := honoured
    rw [handleEvent_reported reported, select_accepted same]
    have f := (c.heard .tick).consumed.follow_inv (npc.acted action) (action npc.state).2 .stalled
    generalize (c.heard .tick).consumed.follow (npc.acted action) (action npc.state).2 .stalled = r
      at f ⊢
    obtain ⟨result, c'⟩ := r
    -- the pick was noted before the action ran, and showing nodes does not take it
    have kept : c'.surface.lastPick = some pick := by
      have same := f.keeps Automated.lastPick fun _ _ _ _ _ =>
        (display_automated _ _ _ _ _).2.2
      exact same.trans (congrArg Automated.lastPick after)
    refine ⟨some pick, ?_⟩
    cases result with
    | error e =>
      exact .failed selects kept (f.error_navigational (c.heard .tick).consumed_open rfl)
    | ok outcome =>
      cases outcome with
      | stalled => exact .stalled selects kept
      | presenting key => exact .moved selects kept (f.poised nofun rfl)

/-- Only an event changes the policy; what follows on a selection keeps it. -/
lemma handleEvent_policy (c : Conversation (Automated π)) (npc : Npc) (event : InputEvent) :
    (c.handleEvent npc event).2.1.surface.policy = c.surface.respond.2.policy := by
  cases reported : (Surface.respond c.surface event).1 with
  | none =>
    rw [handleEvent_silent reported]
    rfl
  | some s =>
    rw [handleEvent_reported reported]
    cases accepted : (c.heard event).accept s with
    | error violation =>
      rw [select_refused accepted]
      rfl
    | ok action =>
      rw [select_accepted accepted]
      have f := (c.heard event).consumed.follow_inv (npc.acted action) (action npc.state).2 .stalled
      exact f.keeps Automated.policy fun _ _ _ _ _ => (display_automated _ _ _ _ _).2.1

end Parley.Conversation
