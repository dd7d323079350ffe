import Mathlib.Data.List.Induction
import Parley.Proofs.Conversation.Coherence

/-!
# The protocol of surfaces

Where no selection is handed in directly (`Operation.Indirect`), every selection comes from the
surface. What the surface reports while an episode is live belongs to that episode, and while none
is live it has nothing to report (`Guarded`), with one exception: a session that is started while a
node is presented leaves the page of that node up (`LeftUp`), until a node is shown or the session
is ended. `Upholds` says what follows for events, and `surfaces_uphold_protocol` that it holds after
all such operations: the protocol is broken by what is selected on a page that was left up, and by
nothing else.
-/

namespace Parley.Conversation

/-- The calls other than a selection that is handed in. -/
def Call.Indirect : Call → Prop
  | .select _ => False
  | _ => True

/-- The operations other than a selection that is handed in. -/
def Operation.Indirect : Operation → Prop
  | .ask _ call => call.Indirect
  | _ => True

variable {σ : Type} [Surface σ]

/-! ## Guarded conversations -/

/-- While no episode is live, the surface has nothing to report. -/
def Guarded (c : Conversation σ) : Prop := c.episode = none → Surface.Mute c.surface

/-- Conversations stay guarded while keys are drawn and put back, and where a node is shown. -/
lemma guarded_persistent : Persistent (Guarded (σ := σ)) where
  draws _ _ guarded := guarded
  pushes _ _ guarded := guarded
  shows _ _ _ _ _ _ := nofun

/-- After a selection, a surface that has nothing more to report is silent until it is shown a
node. -/
lemma select_guarded {c : Conversation σ} (mute : Surface.Mute c.surface) (npc : Npc)
    (s : Selection) : (c.select npc s).2.1.Guarded := by
  cases verdict : c.accept s with
  | error v =>
    rw [select_refused verdict]
    exact fun _ => mute
  | ok action =>
    rw [select_accepted verdict]
    have f := c.consumed.follow_inv (npc.acted action) (action npc.state).2 .stalled
    exact f.persists guarded_persistent fun _ => mute

/-- No call but a selection that is handed in leaves a guarded conversation unguarded. -/
lemma perform_guarded [OneShotSurface σ] {c : Conversation σ} (guarded : c.Guarded) {call : Call}
    (indirect : call.Indirect) (npc : Npc) : (call.perform c npc).2.1.Guarded := by
  cases call with
  | visit key => exact (c.visit_inv npc key).persists guarded_persistent guarded
  | visitRandom => exact visitRandom_persists guarded_persistent guarded npc
  | select s => exact indirect.elim
  | handleEvent event =>
    rw [Call.perform]
    cases reported : (Surface.respond c.surface event).1 with
    | none =>
      rw [handleEvent_silent reported]
      exact fun unshown => (guarded unshown).respond event
    | some s =>
      rw [handleEvent_reported reported]
      -- one report is all there is, whether it is accepted or not
      exact select_guarded (c := c.heard event) (OneShotSurface.mute_of_reported reported) npc s

/-! ## Pages that were left up -/

/-- A session was started while a node was presented, and nothing was shown or ended since. -/
def LeftUp (c : Conversation σ) (ops : List Operation) : Prop :=
  ∃ before entryKeys after, ops = before ++ .startSession entryKeys :: after ∧
    (c.run before).phase = .presenting ∧
    ∀ since, since <+: after → (c.run (before ++ .startSession entryKeys :: since)).phase = .idle

/-- While a page is left up the conversation is idle. -/
lemma LeftUp.idle {c : Conversation σ} {ops : List Operation} (left : c.LeftUp ops) :
    (c.run ops).phase = .idle := by
  obtain ⟨before, entryKeys, after, rfl, _, idle⟩ := left
  exact idle after (List.prefix_refl after)

/-- A page stays left up as long as the conversation stays idle. -/
lemma LeftUp.concat {c : Conversation σ} {ops : List Operation} (left : c.LeftUp ops)
    {op : Operation} (still : (c.run (ops ++ [op])).phase = .idle) : c.LeftUp (ops ++ [op]) := by
  obtain ⟨before, entryKeys, after, rfl, presenting, idle⟩ := left
  refine ⟨before, entryKeys, after ++ [op], by simp, presenting, ?_⟩
  intro since upTo
  obtain rfl | upTo := List.prefix_concat_iff.1 upTo
  · simpa using still
  · exact idle since upTo

/-- Only the end of a session ends it. -/
lemma Trace.going_on {c c' : Conversation σ} {marks : List Mark} (tr : Trace marks c c')
    (inSession : ∀ mark ∈ marks, mark.InSession) (going_on : c.phase ≠ .ended) :
    c'.phase ≠ .ended := by
  induction tr with
  | nil => exact going_on
  | cons st _ ih =>
    refine ih (fun mark mem => inSession mark (List.mem_cons_of_mem _ mem)) ?_
    have first := inSession _ List.mem_cons_self
    cases st with
    | started entryKeys => exact first.elim
    | ended => exact first.elim
    | heard event => exact going_on
    | accepted _ => exact consumed_open _
    | failed e source => exact going_on
    | restarted key => exact going_on
    | shown _ _ _ _ _ => exact nofun

/-- Where no selection is handed in, only a page that was left up keeps a conversation from being
guarded. -/
lemma run_guarded [OneShotSurface σ] {surface : σ} (empty : Surface.page surface = .empty)
    (collections : Collections) (source : Random.Source) {ops : List Operation}
    (indirect : ∀ op ∈ ops, op.Indirect) :
    ((create surface collections source).run ops).Guarded ∨
      (create surface collections source).LeftUp ops := by
  induction ops using List.reverseRecOn with
  | nil => exact .inl fun _ => Surface.mute_of_empty empty
  | append_singleton ops op ih =>
    have before := ih fun op mem => indirect op (List.mem_append_left _ mem)
    have last := indirect op (List.mem_append_right _ List.mem_cons_self)
    have num := run_numbered surface collections source ops
    have num' := run_numbered surface collections source (ops ++ [op])
    have after := run_concat (create surface collections source) ops op
    generalize create surface collections source = fresh at *
    rw [after] at num'
    cases op with
    | startSession entryKeys =>
      by_cases presenting : (fresh.run ops).phase = .presenting
      · refine .inr ⟨ops, entryKeys, [], rfl, presenting, ?_⟩
        intro since upTo
        rw [List.prefix_nil.1 upTo, after]
        rfl
      · obtain guarded | left := before
        · -- no node was presented, so the page cannot be one that is left up now
          rw [after]
          exact .inl fun _ => guarded (num.unshown presenting)
        · refine .inr (left.concat ?_)
          rw [after]
          rfl
    | endSession =>
      rw [after]
      exact .inl fun _ => Surface.mute_of_empty (LawfulSurface.page_reset _)
    | ask npc call =>
      obtain guarded | left := before
      · rw [after]
        exact .inl (perform_guarded guarded last npc)
      · by_cases idle : (fresh.run (ops ++ [.ask npc call])).phase = .idle
        · exact .inr (left.concat idle)
        · -- the call showed a node, since it cannot have ended the session
          have going_on : (Operation.apply (fresh.run ops) (.ask npc call)).phase ≠ .ended := by
            refine (perform_trace _ npc call).going_on (fun _ => Call.marks_inSession) ?_
            rw [left.idle]
            exact nofun
          rw [after] at idle ⊢
          refine .inl fun unshown => ?_
          cases phase : (Operation.apply (fresh.run ops) (.ask npc call)).phase with
          | idle => exact absurd phase idle
          | ended => exact absurd phase going_on
          | presenting =>
            rw [num'.presenting_iff, currentKey, unshown] at phase
            cases phase

/-! ## Events and the protocol -/

/-- An event breaks the protocol if and only if it gets a selection reported while no episode is
live. -/
lemma violation_iff_unshown [LawfulSurface σ] {marks : List Mark} {c : Conversation σ}
    (num : Numbered marks c) (displayed : c.Displayed) (npc : Npc) (event : InputEvent) :
    (∃ v, (c.handleEvent npc event).1 = .error (.protocolViolation v)) ↔
      c.episode = none ∧ (Surface.respond c.surface event).1 ≠ none := by
  cases reported : (Surface.respond c.surface event).1 with
  | none =>
    rw [handleEvent_silent reported]
    exact ⟨nofun, fun h => absurd rfl h.2⟩
  | some s =>
    rw [handleEvent_reported reported]
    cases live : c.episode with
    | none =>
      refine ⟨fun _ => ⟨rfl, nofun⟩, fun _ => ?_⟩
      have refused := accept_unshown (c := c.heard event) live s
      rw [select_refused refused]
      exact ⟨_, rfl⟩
    | some e =>
      obtain ⟨action, _, accepted⟩ := displayed.accepts (num.going_on live) live reported
      refine ⟨?_, nofun⟩
      rintro ⟨v, violation⟩
      have f := (c.heard event).consumed.follow_inv (npc.acted action) (action npc.state).2 .stalled
      rw [select_accepted accepted] at violation
      -- following an action never ends with a violation
      cases outcome : ((c.heard event).consumed.follow (npc.acted action)
          (action npc.state).2 .stalled).1 with
      | ok t =>
        rw [outcome] at violation
        cases violation
      | error e =>
        rw [outcome] at violation
        cases violation
        cases f.error_navigational (c.heard event).consumed_open outcome

/-- A selection that is reported while nothing is shown is refused for that, and changes nothing
else than the surface that reported it. -/
lemma handleEvent_idle {c : Conversation σ} {event : InputEvent} {s : Selection}
    (idle : c.phase = .idle) (unshown : c.episode = none)
    (reported : (Surface.respond c.surface event).1 = some s) (npc : Npc) :
    c.handleEvent npc event =
      (.error (.protocolViolation .nothingShown), c.heard event, npc) := by
  have still_idle : (c.heard event).phase = .idle := idle
  have refused := accept_unshown (c := c.heard event) unshown s
  rw [handleEvent_reported reported, select_refused refused, still_idle]
  rfl

/-- What the events of a conversation owe to the protocol after some operations. -/
structure Upholds (c : Conversation σ) (ops : List Operation) : Prop where
  /-- Where no session was started over a node that was presented, no event breaks the protocol. -/
  kept : (∀ before entryKeys after, ops = before ++ .startSession entryKeys :: after →
      (c.run before).phase ≠ .presenting) →
    ∀ npc event v, ((c.run ops).handleEvent npc event).1 ≠ .error (.protocolViolation v)
  /-- What is reported while an episode is live is a selection of that episode, which accepts it. -/
  live : ∀ e event s, (c.run ops).episode = some e →
    (Surface.respond (c.run ops).surface event).1 = some s →
    s.episode = e.id ∧ ∃ action, e.accept s = .ok action
  /-- Events break the protocol if and only if they select on a page that was left up. -/
  broken : ∀ npc event,
    (∃ v, ((c.run ops).handleEvent npc event).1 = .error (.protocolViolation v)) ↔
      c.LeftUp ops ∧ (Surface.respond (c.run ops).surface event).1 ≠ none
  /-- An event that breaks the protocol changes the surface at most, and runs no action. -/
  harmless : ∀ npc event v,
    ((c.run ops).handleEvent npc event).1 = .error (.protocolViolation v) →
    v = .nothingShown ∧ ((c.run ops).handleEvent npc event).2 = ((c.run ops).heard event, npc)

/-- Where no selection is handed in, the events of a reachable conversation keep to the protocol,
except on a page that was left up. -/
lemma run_upholds [OneShotSurface σ] {surface : σ} (empty : Surface.page surface = .empty)
    (collections : Collections) (source : Random.Source) {ops : List Operation}
    (indirect : ∀ op ∈ ops, op.Indirect) : (create surface collections source).Upholds ops := by
  have num := run_numbered surface collections source ops
  have displayed := run_displayed surface collections source ops
  have guarded_or_left := run_guarded empty collections source indirect
  generalize create surface collections source = fresh at *
  have broken : ∀ npc event,
      (∃ v, ((fresh.run ops).handleEvent npc event).1 = .error (.protocolViolation v)) ↔
        fresh.LeftUp ops ∧ (Surface.respond (fresh.run ops).surface event).1 ≠ none := by
    intro npc event
    rw [violation_iff_unshown num displayed npc event]
    refine and_congr_left fun reported => ⟨fun unshown => ?_, fun left => ?_⟩
    · obtain guarded | left := guarded_or_left
      · exact absurd ((guarded unshown).silent event) reported
      · exact left
    · refine num.unshown ?_
      rw [left.idle]
      exact nofun
  refine ⟨?_, ?_, broken, ?_⟩
  · intro orderly npc event v violation
    obtain ⟨⟨before, entryKeys, after, split, presenting, _⟩, _⟩ :=
      (broken npc event).1 ⟨v, violation⟩
    exact orderly before entryKeys after split presenting
  · intro e event s live reported
    obtain ⟨action, accepted, _⟩ := displayed.accepts (num.going_on live) live reported
    exact ⟨Episode.accept_episode accepted, action, accepted⟩
  · intro npc event v violation
    obtain ⟨left, reported⟩ := (broken npc event).1 ⟨v, violation⟩
    obtain ⟨unshown, _⟩ := (violation_iff_unshown num displayed npc event).1 ⟨v, violation⟩
    obtain ⟨s, reported⟩ := Option.ne_none_iff_exists'.1 reported
    rw [handleEvent_idle left.idle unshown reported] at violation ⊢
    cases violation
    exact ⟨rfl, rfl⟩

omit [Surface σ] in
/-- On a terminal and on an automated surface with any policy, where no selection is handed in
directly: whatever is reported while an episode is live is accepted by that episode, and events
break the protocol if and only if they select on a page that was left up by a session started over
it. -/
theorem surfaces_uphold_protocol (collections : Collections) (source : Random.Source)
    (ops : List Operation) (indirect : ∀ op ∈ ops, op.Indirect) :
    (create Terminal.blank collections source).Upholds ops ∧
    ∀ (π : Type) [Policy π] (policy : π),
      (create (Automated.blank policy) collections source).Upholds ops :=
  ⟨run_upholds rfl collections source indirect,
    fun _ _ _ => run_upholds rfl collections source indirect⟩

/-- Starting a session over a node that is presented breaks the protocol at the next selection, on
either surface. -/
theorem startSession_leaves_options :
    let hill : Key := ⟨"hill"⟩
    let dale : Key := ⟨"dale"⟩
    let guide : Npc := ⟨"guide", .empty, Graph.empty
      |>.insert hill ((Node.fixed "Uphill.").withOffer fun _ =>
        ChoiceSet.empty.withChoice "On" fun state => (state, [.jump dale]))
      |>.insert dale (Node.fixed "Downhill.")⟩
    let ops := [.startSession [hill], .ask guide (.visit hill), .startSession [hill]]
    let terminal := (create Terminal.blank .empty (.ofSeed 0)).run ops
    let automated := (create (Automated.blank (FixedPolicy.mk [some (.choice 0)])) .empty
      (.ofSeed 0)).run ops
    (terminal.handleEvent guide (.number 1)).1 = .error (.protocolViolation .nothingShown) ∧
      (automated.handleEvent guide .tick).1 = .error (.protocolViolation .nothingShown) :=
  ⟨rfl, rfl⟩

/-- After the same operations the events of a terminal uphold the protocol no further than the page
that was left up allows. -/
theorem surfaces_uphold_protocol_hill :
    let hill : Key := ⟨"hill"⟩
    let guide : Npc := ⟨"guide", .empty, Graph.empty.insert hill
      ((Node.fixed "Uphill.").withOffer fun _ =>
        ChoiceSet.empty.withChoice "On" fun state => (state, [.jump hill]))⟩
    let ops := [.startSession [hill], .ask guide (.visit hill), .startSession [hill]]
    let c := create Terminal.blank .empty (.ofSeed 0)
    (∀ op ∈ ops, op.Indirect) ∧ c.Upholds ops ∧ c.LeftUp ops := by
  intro hill guide ops c
  have indirect : ∀ op ∈ ops, op.Indirect := by
    simp [ops, Operation.Indirect, Call.Indirect]
  obtain ⟨upholds, _⟩ := surfaces_uphold_protocol .empty (.ofSeed 0) ops indirect
  obtain ⟨left, _⟩ := (upholds.broken guide (.number 1)).1 ⟨.nothingShown, rfl⟩
  exact ⟨indirect, upholds, left⟩

end Parley.Conversation
