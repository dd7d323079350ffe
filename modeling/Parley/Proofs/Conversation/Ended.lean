import Parley.Proofs.Conversation.History
import Parley.Proofs.Surface.Lawful

/-!
# Ended sessions

After the end of a session nothing gets a conversation going again but the start of another one.
What is left by then (`Closed`) is kept by all other operations: the phase turns visits and
selections away, and the empty page leaves no event anything to report. `Inert` says what follows,
and `ended_session_inert` that it holds however the session was ended and whatever is tried since.
-/

namespace Parley.Conversation

variable {σ : Type} [Surface σ]

/-- Of the conversation `c` an ended session is left, on a surface that shows nothing. -/
structure Closed (c now : Conversation σ) : Prop where
  left : now = { c.endSession with surface := now.surface }
  blank : Surface.page now.surface = .empty

/-- The session of `c` is over: what is left of it stays as it was and turns everything away. -/
structure Inert (c now : Conversation σ) : Prop where
  phase : now.phase = .ended
  currentKey : now.currentKey = none
  frontier : now.frontier = c.frontier
  source : now.source = c.source
  episodesStarted : now.episodesStarted = c.episodesStarted
  page : Surface.page now.surface = .empty
  visit : ∀ npc key, now.visit npc key = (.error .sessionEnded, now)
  visitRandom : ∀ npc, now.visitRandom npc = (.error .sessionEnded, now)
  select : ∀ npc s, now.select npc s = (.error (.protocolViolation .afterEnd), now, npc)
  /-- An event is taken by the surface alone. -/
  handleEvent : ∀ npc event, now.handleEvent npc event = (.ok none, now.heard event, npc)

/-- Ending a session leaves an ended session and an empty page. -/
lemma endSession_closed [LawfulSurface σ] (c : Conversation σ) : c.Closed c.endSession :=
  ⟨rfl, LawfulSurface.page_reset c.surface⟩

/-- What is left of an ended session counts as ended. -/
lemma Closed.phase {c now : Conversation σ} (closed : c.Closed now) : now.phase = .ended := by
  rw [closed.left]
  rfl

/-- What is left of an ended session turns every request away. -/
lemma Closed.inert [LawfulSurface σ] {c now : Conversation σ} (closed : c.Closed now) :
    c.Inert now where
  phase := closed.phase
  currentKey := by rw [closed.left]; rfl
  frontier := by rw [closed.left]; rfl
  source := by rw [closed.left]; rfl
  episodesStarted := by rw [closed.left]; rfl
  page := closed.blank
  visit npc key := by rw [Conversation.visit, if_pos closed.phase]
  visitRandom npc := by rw [Conversation.visitRandom, if_pos closed.phase]
  select npc s := by
    have refused : now.accept s = .error .afterEnd := by rw [accept, if_pos closed.phase]
    exact select_refused refused npc
  handleEvent npc event :=
    handleEvent_silent ((Surface.mute_of_empty closed.blank).silent event) npc

/-- What is left of an ended session outlasts every operation but the start of a session. -/
lemma Closed.apply [LawfulSurface σ] {c now : Conversation σ} (closed : c.Closed now)
    {op : Operation} (unstarted : ∀ entryKeys, op ≠ .startSession entryKeys) :
    c.Closed (op.apply now) := by
  have inert := closed.inert
  cases op with
  | startSession entryKeys => exact absurd rfl (unstarted entryKeys)
  | endSession =>
    refine ⟨?_, LawfulSurface.page_reset now.surface⟩
    rw [Operation.apply, endSession, closed.left]
    rfl
  | ask npc call =>
    cases call with
    | visit key =>
      rw [Operation.apply, Call.perform, inert.visit]
      exact closed
    | visitRandom =>
      rw [Operation.apply, Call.perform, inert.visitRandom]
      exact closed
    | select s =>
      rw [Operation.apply, Call.perform, inert.select]
      exact closed
    | handleEvent event =>
      rw [Operation.apply, Call.perform, inert.handleEvent]
      -- only the surface hears the event, and there is nothing on it
      refine ⟨?_, (LawfulSurface.page_respond now.surface event).trans closed.blank⟩
      rw [heard, closed.left]

/-- So it outlasts any number of operations among which no session is started. -/
lemma Closed.run [LawfulSurface σ] {c now : Conversation σ} (closed : c.Closed now)
    {ops : List Operation} (unstarted : ∀ entryKeys, .startSession entryKeys ∉ ops) :
    c.Closed (now.run ops) := by
  induction ops generalizing now with
  | nil => exact closed
  | cons op rest ih =>
    refine ih (closed.apply ?_) ?_
    · rintro entryKeys rfl
      exact unstarted entryKeys List.mem_cons_self
    · exact fun entryKeys mem => unstarted entryKeys (List.mem_cons_of_mem _ mem)

omit [Surface σ] in
/-- However a conversation stood when its session was ended, at a terminal, on an automated surface
with any policy or on a recorder: until a session is started, whatever is tried is turned away, and
nothing changes. -/
theorem ended_session_inert (ops : List Operation)
    (unstarted : ∀ entryKeys, .startSession entryKeys ∉ ops) :
    (∀ c : Conversation Terminal, c.Inert (c.endSession.run ops)) ∧
    (∀ (π : Type) [Policy π] (c : Conversation (Automated π)), c.Inert (c.endSession.run ops)) ∧
    (∀ c : Conversation Recorder, c.Inert (c.endSession.run ops)) :=
  ⟨fun c => (c.endSession_closed.run unstarted).inert,
    fun _ _ c => (c.endSession_closed.run unstarted).inert,
    fun c => (c.endSession_closed.run unstarted).inert⟩

omit [Surface σ] in
/-- A session that is ended while a rope is held up: neither confirming nor handing the selection in
presents it any more, and the visit of the gate is refused. -/
theorem ended_session_inert_rope :
    let gate : Key := ⟨"gate"⟩
    let rope : Item := ⟨"rope"⟩
    let guard : Npc := ⟨"guard", .empty, Graph.empty.insert gate
      ((Node.fixed "Well?").withOffer fun _ =>
        ChoiceSet.empty.withPresentation "things" fun _ state => (state, [.resume]))⟩
    let c := (create Terminal.blank (Collections.empty.register "things" [rope]) (.ofSeed 0)).run
      [.startSession [gate, gate], .ask guard (.visit gate), .ask guard (.handleEvent (.key 'p')),
        .ask guard (.handleEvent (.number 1))]
    let ops := [.ask guard (.handleEvent .confirm), .endSession, .ask guard (.visit gate)]
    let now := c.endSession.run ops
    c.surface.mode = .confirming 0 ∧ (∀ entryKeys, .startSession entryKeys ∉ ops) ∧
      c.Inert now ∧ now.frontier = ⟨[gate]⟩ ∧
      (now.select guard (.present ⟨1⟩ rope)).1 = .error (.protocolViolation .afterEnd) := by
  intro gate rope guard c ops now
  have unstarted : ∀ entryKeys, .startSession entryKeys ∉ ops := by simp [ops]
  have inert : c.Inert now := (ended_session_inert ops unstarted).1 c
  refine ⟨rfl, unstarted, inert, inert.frontier, ?_⟩
  rw [inert.select]

end Parley.Conversation
