import Mathlib.Data.List.Basic
import Parley.Proofs.Game.Consistency

/-!
# What becomes of the characters

The characters of a game change by deeds alone: the actions of selections that are accepted while
the conversation with the character is on top of the stack. An event brings about one deed at most
(`Game.deed?`), which changes the character at the position of that conversation and no other, and
it is done whatever becomes of the requests of the action (`deed_iff`). `characters_follow_deeds`
says so for every game that was played from the start.
-/

namespace Parley

/-- The action behind the selection that an event completes, if that selection is accepted. -/
def Conversation.chosen? {σ : Type} [Surface σ] (c : Conversation σ) (event : InputEvent) :
    Option Action :=
  (Surface.respond c.surface event).1.bind fun s => ((c.heard event).accept s).toOption

/-- An action in a conversation with the character at a position. -/
structure Deed where
  index : Nat
  action : Action

/-- The characters after a deed. -/
def Deed.apply (npcs : List Npc) (deed : Deed) : List Npc :=
  npcs.modify deed.index (·.acted deed.action)

/-- The actions among some deeds that concern the character at a position, in order. -/
def actionsAt (index : Nat) (deeds : List Deed) : List Action :=
  (deeds.filter (·.index = index)).map (·.action)

/-- A deed changes the one character that it concerns. -/
lemma Deed.getElem?_apply (npcs : List Npc) (deed : Deed) (index : Nat) :
    (deed.apply npcs)[index]? =
      npcs[index]?.map fun npc => if deed.index = index then npc.acted deed.action else npc :=
  List.getElem?_modify ..

/-- Each character has gone through its own deeds, in order. -/
lemma getElem?_foldl_apply (npcs : List Npc) (deeds : List Deed) (index : Nat) :
    (deeds.foldl Deed.apply npcs)[index]? =
      npcs[index]?.map ((actionsAt index deeds).foldl Npc.acted) := by
  induction deeds generalizing npcs with
  | nil => simp [actionsAt]
  | cons deed rest ih =>
    rw [List.foldl_cons, ih, Deed.getElem?_apply, Option.map_map]
    by_cases concerns : deed.index = index
    · simp [actionsAt, concerns, Function.comp_def]
    · simp [actionsAt, concerns, Function.comp_def]

/-! ## Conversations -/

namespace Conversation

variable {σ : Type} [Surface σ]

/-- An event changes a character by the action that is chosen, if there is one. -/
lemma handleEvent_npc (c : Conversation σ) (npc : Npc) (event : InputEvent) :
    (c.handleEvent npc event).2.2 = ((c.chosen? event).map npc.acted).getD npc := by
  rw [chosen?]
  cases reported : (Surface.respond c.surface event).1 with
  | none =>
    rw [handleEvent_silent reported]
    rfl
  | some s =>
    rw [handleEvent_reported reported, Option.bind_some]
    cases verdict : (c.heard event).accept s with
    | ok action =>
      rw [select_accepted verdict]
      rfl
    | error v =>
      rw [select_refused verdict]
      rfl

/-- While a node waits for a selection, an action is chosen unless nothing comes of the event. -/
lemma Awaits.chosen_iff {c : Conversation Terminal} (awaits : c.Awaits) (npc : Npc)
    (event : InputEvent) :
    (∃ action, c.chosen? event = some action) ↔ (c.handleEvent npc event).1 ≠ .ok none := by
  rw [chosen?]
  cases reported : (Surface.respond c.surface event).1 with
  | none =>
    rw [handleEvent_silent reported]
    exact ⟨nofun, fun something => absurd rfl something⟩
  | some s =>
    obtain ⟨action, accepted⟩ := awaits.accepts reported
    rw [handleEvent_reported reported, Option.bind_some, accepted, select_accepted accepted]
    refine ⟨fun _ => ?_, fun _ => ⟨action, rfl⟩⟩
    cases ((c.heard event).consumed.follow (npc.acted action) (action npc.state).2 .stalled).1 with
    | ok outcome => exact nofun
    | error e => exact nofun

end Conversation

/-- A key selects nothing on a terminal. -/
lemma Terminal.respond_key_silent (t : Terminal) (c : Char) : (t.respond (.key c)).1 = none := by
  obtain ⟨page, mode, dirty⟩ := t
  cases mode with
  | choosing =>
    rw [respond_key (t := ⟨page, .choosing, dirty⟩) rfl]
    split
    · rfl
    · rfl
  | _ => rfl

/-! ## Hosts -/

namespace Host

/-- Starting a talk does not change any character. -/
lemma talkTo_npcs (h : Host) (index : Nat) : (h.talkTo index).2.npcs = h.npcs := by
  rw [talkTo]
  split
  · rfl
  · rfl

/-- Conversing changes the characters by the deed that is done. -/
lemma converse_npcs (h : Host) (index : Nat) (event : InputEvent) :
    (h.converse index event).2.npcs =
      ((h.conversation.chosen? event).map (Deed.mk index)).toList.foldl Deed.apply h.npcs := by
  rw [converse]
  cases found : h.npcs[index]? with
  | none =>
    have outside : h.npcs.length ≤ index := List.getElem?_eq_none_iff.1 found
    cases h.conversation.chosen? event with
    | none => rfl
    -- there is nobody to talk to, so whatever would be chosen changes nobody
    | some action => exact (List.modify_eq_self outside).symm
  | some npc =>
    show h.npcs.set index (h.conversation.handleEvent npc event).2.2 = _
    rw [Conversation.handleEvent_npc]
    cases h.conversation.chosen? event with
    | none =>
      obtain ⟨inside, e⟩ := List.getElem?_eq_some_iff.1 found
      show h.npcs.set index npc = h.npcs
      rw [← e]
      exact List.set_getElem_self inside
    | some action =>
      show h.npcs.set index (npc.acted action) = h.npcs.modify index (·.acted action)
      rw [List.modify_eq_set_getElem?, found]
      rfl

/-- The host hands on what the conversation makes of an event. -/
lemma converse_fst {h : Host} {index : Nat} {npc : Npc} (found : h.npcs[index]? = some npc)
    (event : InputEvent) :
    (h.converse index event).1 = (h.conversation.handleEvent npc event).1 := by
  rw [converse, found]

end Host

namespace GameLayer

/-- Starting a talk from the menu does not change any character, even if it fails. -/
lemma startTalk_npcs (h : Host) (index : Nat) : (startTalk h index).2.npcs = h.npcs := by
  have kept := h.talkTo_npcs index
  rw [startTalk]
  generalize h.talkTo index = r at kept ⊢
  obtain ⟨result, h'⟩ := r
  cases result with
  | ok => exact kept
  | error e => exact kept

/-- No event in the menu changes a character. -/
lemma handleMenu_npcs (h : Host) (event : InputEvent) : (handleMenu h event).2.npcs = h.npcs := by
  cases event with
  | number n =>
    rw [handleMenu]
    split
    · exact startTalk_npcs h (n - 1)
    · rfl
  | key c =>
    rw [handleMenu]
    split
    · rfl
    · rfl
  | _ => rfl

/-- In a conversation an event changes the partner by the action that it chooses, if any. -/
lemma handleConversation_npcs (h : Host) (index : Nat) (event : InputEvent) :
    (handleConversation h index event).2.npcs =
      ((h.conversation.chosen? event).map (Deed.mk index)).toList.foldl Deed.apply h.npcs := by
  by_cases leaves : event = .key 'l'
  · subst leaves
    -- the layer keeps this key from the terminal, where it would have selected nothing either
    have unchosen : h.conversation.chosen? (.key 'l') = none := by
      rw [Conversation.chosen?]
      exact congrArg (Option.bind · _) (Terminal.respond_key_silent h.conversation.surface 'l')
    rw [unchosen]
    rfl
  · rw [← h.converse_npcs index event, handleConversation, if_neg leaves]
    generalize h.converse index event = r
    obtain ⟨result, h'⟩ := r
    cases result with
    | error e => rfl
    | ok outcome =>
      obtain _ | outcome := outcome
      · rfl
      · cases outcome <;> rfl

end GameLayer

/-! ## Games -/

namespace Game

/-- The deed that an event brings about, which is in the conversation on top of the stack. -/
def deed? (g : Game) (event : InputEvent) : Option Deed :=
  match g.stack.layers.head? with
  | some (.conversation index) => (g.host.conversation.chosen? event).map (Deed.mk index)
  | _ => none

/-- The deeds that events bring about, in order. -/
def deeds (g : Game) : List InputEvent → List Deed
  | [] => []
  | event :: rest => (g.deed? event).toList ++ deeds (g.step event).2 rest

/-- Only the layer on top changes the characters; a failure is dealt with outside of them. -/
lemma step_npcs_of_top {g : Game} {top : GameLayer} {below : List GameLayer}
    (on_top : g.stack.layers = top :: below) (event : InputEvent) :
    (g.step event).2.host.npcs = (top.handle g.host event).2.2.npcs := by
  obtain ⟨⟨layers⟩, h⟩ := g
  cases on_top
  simp only [step, LayerStack.step, LayerStack.dispatch, Layer.handle]
  generalize top.handle h event = r
  obtain ⟨result, top', h'⟩ := r
  cases result with
  | ok flow => rfl
  | error e => rfl

/-- An event changes the characters by the deed that it brings about. -/
lemma step_npcs (g : Game) (event : InputEvent) :
    (g.step event).2.host.npcs = (g.deed? event).toList.foldl Deed.apply g.host.npcs := by
  rw [deed?]
  cases layers : g.stack.layers with
  | nil =>
    obtain ⟨⟨_⟩, h⟩ := g
    cases layers
    rfl
  | cons top below =>
    rw [step_npcs_of_top layers]
    cases top with
    | menu => exact GameLayer.handleMenu_npcs g.host event
    | conversation index => exact GameLayer.handleConversation_npcs g.host index event
    | notice message shown => rfl

/-- After any events the characters have gone through the deeds of the game. -/
lemma run_npcs (g : Game) (events : List InputEvent) :
    (g.run events).host.npcs = (g.deeds events).foldl Deed.apply g.host.npcs := by
  induction events generalizing g with
  | nil => rfl
  | cons event rest ih =>
    rw [deeds, List.foldl_append, ← step_npcs]
    exact ih (g.step event).2

/-- Deeds are done in the conversation on top of the stack. -/
lemma deed?_eq_some_iff {g : Game} {event : InputEvent} {deed : Deed} :
    g.deed? event = some deed ↔
      g.stack.layers.head? = some (.conversation deed.index) ∧
        g.host.conversation.chosen? event = some deed.action := by
  rw [deed?]
  cases g.stack.layers.head? with
  | none => exact ⟨nofun, nofun⟩
  | some top =>
    cases top with
    | menu => exact ⟨nofun, nofun⟩
    | notice message shown => exact ⟨nofun, nofun⟩
    | conversation index =>
      constructor
      · intro done
        obtain ⟨action, chosen, rfl⟩ := Option.map_eq_some_iff.1 done
        exact ⟨rfl, chosen⟩
      · rintro ⟨⟨⟩, chosen⟩
        exact congrArg (Option.map (Deed.mk deed.index)) chosen

/-- In a settled game the conversation on top brings about a deed unless nothing comes of the event:
also when the action moves nowhere, and when its requests fail. -/
lemma Settled.deed_iff {g : Game} (settled : g.Settled) {index : Nat}
    (on_top : g.stack.layers.head? = some (.conversation index)) (event : InputEvent) :
    (∃ action, g.deed? event = some ⟨index, action⟩) ↔
      (g.host.converse index event).1 ≠ .ok none := by
  have talks := (settled.consistent.talks_iff index).1 on_top
  obtain ⟨npc, found⟩ : ∃ npc, g.host.npcs[index]? = some npc :=
    ⟨_, List.getElem?_eq_getElem talks.valid⟩
  rw [Host.converse_fst found, ← talks.awaits.chosen_iff]
  refine exists_congr fun action => ?_
  rw [deed?_eq_some_iff]
  exact and_iff_right on_top

/-- Whatever the events were since the start, the character at a position is the one of the scenario
after the actions of its deeds, each done once and in order, and one more event leaves it alone but
for a deed of its own. Deeds belong to the conversation on top of the stack, and there every event
brings one about that gets an action run, be it that the action moves on, that it stalls, or that
its requests fail. -/
theorem characters_follow_deeds (s : Scenario) (source : Random.Source) (events : List InputEvent)
    (j : Nat) :
    let fresh := start s source
    let g := fresh.run events
    g.host.npcs[j]? = s.npcs[j]?.map ((actionsAt j (fresh.deeds events)).foldl Npc.acted) ∧
    ∀ event,
      (g.step event).2.host.npcs[j]? =
        g.host.npcs[j]?.map ((actionsAt j (g.deed? event).toList).foldl Npc.acted) ∧
      (∀ deed, g.deed? event = some deed →
        g.stack.layers.head? = some (.conversation deed.index)) ∧
      (∀ index, g.stack.layers.head? = some (.conversation index) →
        ((∃ action, g.deed? event = some ⟨index, action⟩) ↔
          (g.host.converse index event).1 ≠ .ok none)) := by
  intro fresh g
  refine ⟨?_, fun event => ⟨?_, ?_, ?_⟩⟩
  · have all : g.host.npcs = (fresh.deeds events).foldl Deed.apply s.npcs := fresh.run_npcs events
    rw [all, getElem?_foldl_apply]
  · rw [step_npcs, getElem?_foldl_apply]
  · intro deed done
    exact (deed?_eq_some_iff.1 done).1
  · intro index on_top
    exact ((start_settled s source).run events).1.deed_iff on_top event

end Game

end Parley
