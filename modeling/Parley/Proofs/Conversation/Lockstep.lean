import Parley.Proofs.Conversation.Coherence

/-!
# Conversations in lockstep

Two conversations on surfaces of their own are `InStep` if they differ in nothing but their surfaces
and in the numbers of their episodes, which are ahead by `n` in the first of them. A conversation
depends on its surface by what the surface reports, and on the number of an episode by comparing it.
So visits, requests and accepted selections keep two conversations in step and end alike in both
(`SameOutcome`, `SameReply`), as long as showing an episode puts both surfaces into the same
relation (`ShownAlike`).
-/

namespace Parley

/-! ## Later numbers -/

/-- The same choice of an episode that is `n` later. -/
def ChoiceHandle.shift (n : Nat) (handle : ChoiceHandle) : ChoiceHandle :=
  { handle with episode := handle.episode + n }

/-- The same presentation of an episode that is `n` later. -/
def PresentHandle.shift (n : Nat) (handle : PresentHandle) : PresentHandle :=
  ⟨handle.episode + n⟩

/-- The same selection of an episode that is `n` later. -/
def Selection.shift (n : Nat) : Selection → Selection
  | .choice handle => .choice (handle.shift n)
  | .present handle item => .present (handle.shift n) item

/-- A selection of an episode that is none later is the same selection. -/
@[simp] lemma Selection.shift_zero (s : Selection) : s.shift 0 = s := by
  cases s <;> rfl

/-- The same page of an episode that is `n` later. -/
def Page.shift (n : Nat) (p : Page) : Page where
  texts := p.texts
  choices := p.choices.map fun (label, handle) => (label, handle.shift n)
  present := p.present.map fun (items, handle) => (items, handle.shift n)

/-- The same episode, `n` later. -/
def Episode.shift (n : Nat) (e : Episode) : Episode := { e with id := e.id + n }

/-- A page of a later episode offers the same picks, with selections of that episode. -/
lemma Page.selectionFor_shift (n : Nat) (p : Page) (pick : Pick) :
    (p.shift n).selectionFor pick = (p.selectionFor pick).map (Selection.shift n) := by
  cases pick with
  | choice index =>
    simp only [Page.selectionFor, Page.shift, List.getElem?_map, Option.map_map]
    rfl
  | present index =>
    obtain ⟨texts, choices, present⟩ := p
    cases present with
    | none => rfl
    | some present =>
      simp only [Page.selectionFor, Page.shift, Option.map_some, Option.map_map]
      rfl

/-- The items of a page do not depend on its episode. -/
@[simp] lemma Page.items_shift (n : Nat) (p : Page) : (p.shift n).items = p.items := by
  obtain ⟨texts, choices, present⟩ := p
  cases present <;> rfl

/-- Whether a page presents anything does not depend on its episode. -/
@[simp] lemma Page.isSome_present_shift (n : Nat) (p : Page) :
    (p.shift n).present.isSome = p.present.isSome :=
  Option.isSome_map

/-- An episode and its selections can be numbered anew together. -/
lemma Episode.accept_shift {e : Episode} {s : Selection} {action : Action} (n : Nat)
    (accepted : e.accept s = .ok action) : (e.shift n).accept (s.shift n) = .ok action := by
  have same := Episode.accept_episode accepted
  cases s with
  | choice handle =>
    have same' : (handle.shift n).episode = (e.shift n).id := congrArg (· + n) same
    rw [Episode.accept_choice same] at accepted
    exact (Episode.accept_choice same').trans accepted
  | present handle item =>
    have same' : (handle.shift n).episode = (e.shift n).id := congrArg (· + n) same
    rw [Episode.accept_present same] at accepted
    exact (Episode.accept_present same').trans accepted

namespace Conversation

variable {σ τ : Type}

/-- Two conversations that differ only in their surfaces, which are related by `R`, and in the
numbers of their episodes, which are ahead by `n` in the first. -/
structure InStep (R : σ → τ → Prop) (n : Nat) (c : Conversation σ) (d : Conversation τ) : Prop where
  surfaces : R c.surface d.surface
  collections : c.collections = d.collections
  frontier : c.frontier = d.frontier
  source : c.source = d.source
  phase : c.phase = d.phase
  episode : c.episode = d.episode.map (Episode.shift n)
  started : c.episodesStarted = d.episodesStarted + n

/-- Two steps that end alike, in conversations that are in step. -/
structure SameOutcome {ρ : Type} (R : σ → τ → Prop) (n : Nat) (r : ρ × Conversation σ)
    (r' : ρ × Conversation τ) : Prop where
  result : r.1 = r'.1
  inStep : InStep R n r.2 r'.2

/-- The same where a character comes back with its new state. -/
structure SameReply {ρ : Type} (R : σ → τ → Prop) (n : Nat) (r : ρ × Conversation σ × Npc)
    (r' : ρ × Conversation τ × Npc) : Prop where
  result : r.1 = r'.1
  inStep : InStep R n r.2.1 r'.2.1
  npc : r.2.2 = r'.2.2

/-- What can be seen of a conversation. -/
structure View where
  phase : Phase
  current : Option Key
  frontier : Frontier
  page : Page

/-- What can be seen of a conversation now. -/
def view [Surface σ] (c : Conversation σ) : View :=
  ⟨c.phase, c.currentKey, c.frontier, Surface.page c.surface⟩

section

variable {R : σ → τ → Prop} {n : Nat} {c : Conversation σ} {d : Conversation τ}

/-- Steps that end alike have one result and lead to conversations in step. -/
lemma SameOutcome.split {ρ : Type} {r : ρ × Conversation σ} {r' : ρ × Conversation τ}
    (same : SameOutcome R n r r') :
    ∃ result c d, r = (result, c) ∧ r' = (result, d) ∧ InStep R n c d := by
  obtain ⟨result, c⟩ := r
  obtain ⟨result', d⟩ := r'
  obtain ⟨rfl, st⟩ := same
  exact ⟨_, c, d, rfl, rfl, st⟩

/-- Conversations in step present the same key. -/
lemma InStep.currentKey (st : InStep R n c d) : c.currentKey = d.currentKey := by
  rw [Conversation.currentKey, Conversation.currentKey, st.episode, Option.map_map]
  rfl

/-- Conversations stay in step when a session is started in both. -/
lemma InStep.startSession (st : InStep R n c d) (entryKeys : List Key) :
    InStep R n (c.startSession entryKeys) (d.startSession entryKeys) :=
  { st with frontier := rfl, phase := rfl, episode := rfl }

/-- Conversations stay in step when the episode is used up in both. -/
lemma InStep.consumed (st : InStep R n c d) : InStep R n c.consumed d.consumed :=
  { st with phase := rfl, episode := rfl }

/-- A selection that one of them accepts is accepted by the other with the later number. -/
lemma InStep.accept {s : Selection} {action : Action} (st : InStep R n c d)
    (accepted : d.accept s = .ok action) : c.accept (s.shift n) = .ok action := by
  obtain ⟨going_on, e, live, accepted⟩ := accept_ok accepted
  have going_on' : c.phase ≠ .ended := by rwa [st.phase]
  have live' : c.episode = some (e.shift n) := by
    rw [st.episode, live]
    rfl
  rw [accept_of_live going_on' live']
  exact Episode.accept_shift n accepted

/-- While nothing is shown, both refuse every selection for the same reason. -/
lemma InStep.accept_unshown (st : InStep R n c d) (unshown : d.episode = none)
    (s s' : Selection) : ∃ v, c.accept s = .error v ∧ d.accept s' = .error v := by
  have unshown' : c.episode = none := by
    rw [st.episode, unshown]
    rfl
  have refused := Conversation.accept_unshown unshown' s
  rw [st.phase] at refused
  exact ⟨_, refused, Conversation.accept_unshown unshown s'⟩

end

variable [Surface σ] [Surface τ]

/-- Showing the same episode on two surfaces, with a number that is ahead by `n` on the first, puts
them into the relation `R`. -/
def ShownAlike (R : σ → τ → Prop) (n : Nat) : Prop :=
  ∀ (s : σ) (t : τ) (id : Nat) (text : String) (choices : List Choice)
    (items : Option (List Item)),
    R (display s (id + n) text choices items) (display t id text choices items)

variable {R : σ → τ → Prop} {n : Nat} {c : Conversation σ} {d : Conversation τ}

/-- Conversations stay in step when the session is ended in both. -/
lemma InStep.endSession (st : InStep R n c d)
    (reset : R (Surface.reset c.surface) (Surface.reset d.surface)) :
    InStep R n c.endSession d.endSession :=
  { st with surfaces := reset, phase := rfl, episode := rfl }

/-- Conversations in step show a node alike, or both fail to. -/
lemma InStep.present (st : InStep R n c d) (alike : ShownAlike R n) (npc : Npc) (key : Key) :
    SameOutcome R n (c.present npc key) (d.present npc key) := by
  rw [Conversation.present, Conversation.present]
  cases npc.graph.lookup key with
  | error e => exact ⟨rfl, st⟩
  | ok node =>
    -- both draw the words from the same source and look the items up in the same collections
    dsimp only
    rw [st.source, st.collections]
    cases collect d.collections (node.offer npc.speaker).presentation with
    | error e => exact ⟨rfl, ⟨st.surfaces, rfl, st.frontier, rfl, st.phase, st.episode, st.started⟩⟩
    | ok items =>
      have next : c.episodesStarted + 1 = d.episodesStarted + 1 + n := by
        rw [st.started]
        omega
      dsimp only
      rw [next]
      exact ⟨rfl, ⟨alike _ _ _ _ _ _, rfl, st.frontier, rfl, rfl, rfl, rfl⟩⟩

/-- A visit ends alike in conversations that are in step. -/
lemma InStep.visit (st : InStep R n c d) (alike : ShownAlike R n) (npc : Npc) (key : Key) :
    SameOutcome R n (c.visit npc key) (d.visit npc key) := by
  by_cases ended : d.phase = .ended
  · have ended' : c.phase = .ended := by rwa [st.phase]
    rw [visit_eq, if_pos ended', visit_eq, if_pos ended]
    exact ⟨rfl, st⟩
  have going_on : ¬ c.phase = .ended := by rwa [st.phase]
  have removed : InStep R n { c with frontier := c.frontier.remove key }
      { d with frontier := d.frontier.remove key } :=
    { st with frontier := congrArg (Frontier.remove · key) st.frontier }
  obtain ⟨result, c', d', e, e', shown⟩ := (removed.present alike npc key).split
  rw [visit_eq, if_neg going_on, visit_eq, if_neg ended, e, e']
  cases result with
  | ok => exact ⟨rfl, shown⟩
  -- a visit that fails puts the old frontier back, which is the same in both
  | error e => exact ⟨rfl, { shown with frontier := st.frontier }⟩

omit [Surface σ] [Surface τ] in
/-- Conversations in step draw the same key. -/
lemma InStep.drawKey (st : InStep R n c d) : SameOutcome R n c.drawKey d.drawKey := by
  have picked : c.frontier.pick c.source = d.frontier.pick d.source := by
    rw [st.frontier, st.source]
  rw [Conversation.drawKey, Conversation.drawKey, picked]
  cases d.frontier.pick d.source with
  | mk drawn source =>
    cases drawn with
    | none => exact ⟨rfl, { st with source := rfl }⟩
    | some key => exact ⟨rfl, { st with source := rfl }⟩

/-- A random visit ends alike in conversations that are in step. -/
lemma InStep.visitDrawn (st : InStep R n c d) (alike : ShownAlike R n) (npc : Npc) :
    SameOutcome R n (c.visitDrawn npc) (d.visitDrawn npc) := by
  obtain ⟨result, c', d', e, e', drawn⟩ := st.drawKey.split
  rw [Conversation.visitDrawn, Conversation.visitDrawn, e, e']
  cases result with
  | error e => exact ⟨rfl, drawn⟩
  | ok key =>
    obtain ⟨result, c'', d'', e, e', shown⟩ := (drawn.visit alike npc key).split
    dsimp only
    rw [e, e']
    cases result with
    | ok => exact ⟨rfl, shown⟩
    | error e => exact ⟨rfl, shown⟩

/-- A random visit from outside ends alike too. -/
lemma InStep.visitRandom (st : InStep R n c d) (alike : ShownAlike R n) (npc : Npc) :
    SameOutcome R n (c.visitRandom npc) (d.visitRandom npc) := by
  by_cases ended : d.phase = .ended
  · have ended' : c.phase = .ended := by rwa [st.phase]
    rw [Conversation.visitRandom, if_pos ended', Conversation.visitRandom, if_pos ended]
    exact ⟨rfl, st⟩
  have going_on : ¬ c.phase = .ended := by rwa [st.phase]
  obtain ⟨result, c', d', e, e', shown⟩ := (st.visitDrawn alike npc).split
  rw [Conversation.visitRandom, if_neg going_on, Conversation.visitRandom, if_neg ended, e, e']
  cases result with
  | ok key => exact ⟨rfl, shown⟩
  | error e => exact ⟨rfl, shown⟩

/-- Requests end alike in conversations that are in step. -/
lemma InStep.follow (st : InStep R n c d) (alike : ShownAlike R n) (npc : Npc)
    (requests : List Navigation) (soFar : Transition) :
    SameOutcome R n (c.follow npc requests soFar) (d.follow npc requests soFar) := by
  -- every request is carried out in both, and the first that fails ends both
  induction requests generalizing c d soFar with
  | nil => exact ⟨rfl, st⟩
  | cons request rest ih =>
    cases request with
    | restart key =>
      have pushed : InStep R n { c with frontier := c.frontier.push key }
          { d with frontier := d.frontier.push key } :=
        { st with frontier := congrArg (Frontier.push · key) st.frontier }
      exact ih pushed soFar
    | jump key =>
      obtain ⟨result, c', d', e, e', shown⟩ := (st.visit alike npc key).split
      rw [Conversation.follow, Conversation.follow, e, e']
      cases result with
      | ok => exact ih shown _
      | error e => exact ⟨rfl, shown⟩
    | resume =>
      obtain ⟨result, c', d', e, e', shown⟩ := (st.visitDrawn alike npc).split
      rw [Conversation.follow, Conversation.follow, e, e']
      cases result with
      | ok key => exact ih shown _
      | error e => exact ⟨rfl, shown⟩

/-- Selections with the same action behind them end alike. -/
lemma InStep.select (st : InStep R n c d) (alike : ShownAlike R n) {s s' : Selection}
    {action : Action} (accepted : c.accept s = .ok action) (accepted' : d.accept s' = .ok action)
    (npc : Npc) : SameReply R n (c.select npc s) (d.select npc s') := by
  rw [select_accepted accepted, select_accepted accepted']
  obtain ⟨result, followed⟩ :=
    st.consumed.follow alike (npc.acted action) (action npc.state).2 .stalled
  exact ⟨result, followed, rfl⟩

end Conversation

end Parley
