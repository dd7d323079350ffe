import Parley.Conversation
import Parley.Proofs.Dialogue.Frontier
import Parley.Proofs.Random.Range

/-!
# Inversion of conversation steps

For each operation of a conversation, one lemma that tells all its outcomes: the relation (`Visit`,
`Drawing`, `VisitDrawn`, `Follow`) has a constructor for every way in which the operation can end,
with the guard of that way and the whole resulting state, and the lemma (`visit_inv`, `drawKey_inv`,
`visitDrawn_inv`, `follow_inv`) says that the operation ends in one of them. `showing` is the state
after a node was shown. `select` and `handleEvent` are split by equations in the same manner. What is
kept by the few things that all these operations can do (`Persistent`) is kept by each of them.
-/

namespace Parley

/-- The errors that a step from one node to another can end with. -/
inductive DialogueError.Navigational : DialogueError → Prop where
  | unknownNode (key : Key) : Navigational (.unknownNode key)
  | unsupportedCollection (kind : String) : Navigational (.unsupportedCollection kind)
  | frontierExhausted : Navigational .frontierExhausted

/-- A character after an action. -/
def Npc.acted (npc : Npc) (action : Action) : Npc :=
  { npc with state := (action npc.state).1 }

/-- A selection that an episode accepts carries its number. -/
lemma Episode.accept_episode {e : Episode} {s : Selection} {action : Action}
    (accepted : e.accept s = .ok action) : s.episode = e.id := by
  unfold Episode.accept at accepted
  split at accepted
  · cases accepted
  · rename_i same
    exact Decidable.not_not.1 same

/-- An episode accepts a choice of its own that it has. -/
lemma Episode.accept_choice {e : Episode} {handle : ChoiceHandle} (same : handle.episode = e.id) :
    e.accept (.choice handle) =
      match e.actions[handle.index]? with
      | some action => .ok action
      | none => .error (.choiceOutOfRange handle.index e.actions.length) :=
  if_neg (not_not_intro same)

/-- An episode accepts the presentation of an item that it asked for. -/
lemma Episode.accept_present {e : Episode} {handle : PresentHandle} {item : Item}
    (same : handle.episode = e.id) :
    e.accept (.present handle item) =
      match e.present with
      | some (items, action) =>
        if item ∈ items then .ok (action item) else .error (.notOffered item)
      | none => .error .nothingToPresent :=
  if_neg (not_not_intro same)

namespace Conversation

variable {σ : Type}

/-- A conversation whose live episode was used up by a selection. -/
def consumed (c : Conversation σ) : Conversation σ :=
  { c with episode := none, phase := .idle }

/-- A selection does not end the session. -/
lemma consumed_open (c : Conversation σ) : c.consumed.phase ≠ .ended := by
  show Phase.idle ≠ .ended
  exact nofun

/-- A session that was started goes on. -/
lemma startSession_open (c : Conversation σ) (entryKeys : List Key) :
    (c.startSession entryKeys).phase ≠ .ended := by
  show Phase.idle ≠ .ended
  exact nofun

variable [Surface σ]

/-- A conversation whose surface took an event. -/
def heard (c : Conversation σ) (event : InputEvent) : Conversation σ :=
  { c with surface := (Surface.respond c.surface event).2 }

/-- A conversation that shows the node under `key`, with `items` behind its presentation. -/
def showing (c : Conversation σ) (npc : Npc) (key : Key) (node : Node)
    (items : Option (List Item × (Item → Action))) : Conversation σ where
  surface := display c.surface (c.episodesStarted + 1) (node.utter npc.speaker c.source).1
    (node.offer npc.speaker).choices (items.map (·.1))
  collections := c.collections
  frontier := c.frontier.remove key
  source := (node.utter npc.speaker c.source).2
  phase := .presenting
  episode := some
    ⟨c.episodesStarted + 1, key, (node.offer npc.speaker).choices.map (·.action), items⟩
  episodesStarted := c.episodesStarted + 1

/-- What is kept by everything that moves can do: they draw from the source of random numbers, put
keys into the frontier, and show nodes. -/
structure Persistent (P : Conversation σ → Prop) : Prop where
  draws : ∀ c source, P c → P { c with source }
  pushes : ∀ c key, P c → P { c with frontier := c.frontier.push key }
  shows : ∀ c npc key node items, P c → P (showing c npc key node items)

/-! ## Visits -/

/-- Showing a node has nothing to do with the frontier. -/
lemma present_frontier (c : Conversation σ) (npc : Npc) (key : Key) :
    (c.present npc key).2.frontier = c.frontier := by
  rw [present]
  split
  · rfl
  · dsimp only
    split
    · rfl
    · rfl

/-- A visit shows the node with its key taken out of the frontier. If that fails, the key goes back
to where it was, so the frontier of before is there again. -/
lemma visit_eq (c : Conversation σ) (npc : Npc) (key : Key) :
    c.visit npc key =
      if c.phase = .ended then (.error .sessionEnded, c)
      else
        match present { c with frontier := c.frontier.remove key } npc key with
        | (.ok (), shown) => (.ok (), shown)
        | (.error e, failed) => (.error e, { failed with frontier := c.frontier }) := by
  have taken := present_frontier { c with frontier := c.frontier.remove key } npc key
  rw [visit]
  split
  · rfl
  · generalize present { c with frontier := c.frontier.remove key } npc key = r at taken ⊢
    obtain ⟨result, c'⟩ := r
    cases result with
    | ok => rfl
    | error e =>
      change c'.frontier = c.frontier.remove key at taken
      dsimp only
      rw [taken, Frontier.restore_remove]

/-- The outcomes of a visit. -/
inductive Visit (c : Conversation σ) (npc : Npc) (key : Key) :
    Except DialogueError Unit × Conversation σ → Prop where
  | ended :
    c.phase = .ended →
    Visit c npc key (.error .sessionEnded, c)
  | unknown :
    c.phase ≠ .ended →
    npc.graph.get? key = none →
    Visit c npc key (.error (.unknownNode key), c)
  | unsupported {node p} :
    c.phase ≠ .ended →
    npc.graph.get? key = some node →
    (node.offer npc.speaker).presentation = some p →
    c.collections.resolve? p.collection = none →
    Visit c npc key (.error (.unsupportedCollection p.collection),
      { c with source := (node.utter npc.speaker c.source).2 })
  | shown {node items} :
    c.phase ≠ .ended →
    npc.graph.get? key = some node →
    collect c.collections (node.offer npc.speaker).presentation = .ok items →
    Visit c npc key (.ok (), c.showing npc key node items)

/-- A visit has one of the outcomes of `Visit`. -/
lemma visit_inv (c : Conversation σ) (npc : Npc) (key : Key) :
    Visit c npc key (c.visit npc key) := by
  by_cases ended : c.phase = .ended
  · rw [visit_eq, if_pos ended]
    exact .ended ended
  rw [visit_eq, if_neg ended, present, Graph.lookup]
  cases found : npc.graph.get? key with
  | none => exact .unknown ended found
  | some node =>
    dsimp only
    cases collected : collect c.collections (node.offer npc.speaker).presentation with
    | ok items => exact .shown ended found collected
    | error e =>
      -- only a collection that is not there stops a node from being shown
      cases offered : (node.offer npc.speaker).presentation with
      | none =>
        rw [offered] at collected
        cases collected
      | some p =>
        rw [offered, collect] at collected
        cases resolved : c.collections.resolve? p.collection with
        | some items =>
          rw [resolved] at collected
          cases collected
        | none =>
          rw [resolved] at collected
          cases collected
          exact .unsupported ended found offered resolved

/-- A visit that fails leaves all but the source of random numbers as it was. -/
lemma Visit.error_eq {c c' : Conversation σ} {npc key e}
    (v : Visit c npc key (.error e, c')) : ∃ source, c' = { c with source } := by
  cases v with
  | ended _ => exact ⟨c.source, rfl⟩
  | unknown _ _ => exact ⟨c.source, rfl⟩
  | unsupported _ _ _ _ => exact ⟨_, rfl⟩

/-- In a session that goes on, a visit fails only for the node. -/
lemma Visit.error_navigational {c c' : Conversation σ} {npc key e}
    (v : Visit c npc key (.error e, c')) (live : c.phase ≠ .ended) : e.Navigational := by
  cases v with
  | ended ended => exact absurd ended live
  | unknown _ _ => exact .unknownNode key
  | unsupported _ _ _ _ => exact .unsupportedCollection _

/-- What holds of every node that is shown holds after a visit that succeeded. -/
lemma Visit.holds {P : Conversation σ → Prop}
    (shows : ∀ c npc key node items, P (showing c npc key node items))
    {c c' : Conversation σ} {npc key} (v : Visit c npc key (.ok (), c')) : P c' := by
  cases v with
  | shown _ _ _ => exact shows _ _ _ _ _

/-- What persists holds after a visit, whether it succeeded or failed. -/
lemma Visit.persists {P : Conversation σ → Prop} (persistent : Persistent P)
    {c : Conversation σ} {npc key r} (v : Visit c npc key r) (first : P c) : P r.2 := by
  cases v with
  | ended _ => exact first
  | unknown _ _ => exact first
  | unsupported _ _ _ _ => exact persistent.draws _ _ first
  | shown _ _ _ => exact persistent.shows _ _ _ _ _ first

/-- After a visit that succeeded, a node is shown. -/
lemma Visit.presenting {c c' : Conversation σ} {npc key}
    (v : Visit c npc key (.ok (), c')) : c'.phase = .presenting := by
  cases v
  rfl

/-! ## Random visits -/

/-- The outcomes of drawing a key. -/
inductive Drawing (c : Conversation σ) : Except DialogueError Key × Conversation σ → Prop where
  | exhausted :
    c.frontier.keys = [] →
    Drawing c (.error .frontierExhausted, c)
  | drawn {key source} :
    key ∈ c.frontier.keys →
    c.frontier.pick c.source = (some key, source) →
    Drawing c (.ok key, { c with source })

omit [Surface σ] in
/-- Drawing a key has one of the outcomes of `Drawing`. -/
lemma drawKey_inv (c : Conversation σ) : Drawing c c.drawKey := by
  by_cases empty : c.frontier.keys = []
  · have none_left : c.frontier.pick c.source = (none, c.source) := by
      rw [Frontier.pick, empty]
      rfl
    rw [drawKey, none_left]
    exact .exhausted empty
  · obtain ⟨key, mem, e⟩ := Random.Source.choose_mem empty .double c.source
    have picked : c.frontier.pick c.source = (some key, (c.frontier.pick c.source).2) :=
      Prod.ext e rfl
    rw [drawKey, picked]
    exact .drawn mem picked

/-- The outcomes of visiting a random key. -/
inductive VisitDrawn (c : Conversation σ) (npc : Npc) :
    Except DialogueError Key × Conversation σ → Prop where
  | exhausted :
    c.frontier.keys = [] →
    VisitDrawn c npc (.error .frontierExhausted, c)
  | failed {key source e c'} :
    key ∈ c.frontier.keys →
    c.frontier.pick c.source = (some key, source) →
    Visit { c with source } npc key (.error e, c') →
    VisitDrawn c npc (.error e, c')
  | shown {key source c'} :
    key ∈ c.frontier.keys →
    c.frontier.pick c.source = (some key, source) →
    Visit { c with source } npc key (.ok (), c') →
    VisitDrawn c npc (.ok key, c')

/-- A visit to a random key has one of the outcomes of `VisitDrawn`. -/
lemma visitDrawn_inv (c : Conversation σ) (npc : Npc) : VisitDrawn c npc (c.visitDrawn npc) := by
  rw [visitDrawn]
  have drawing := c.drawKey_inv
  generalize c.drawKey = r at drawing
  cases drawing with
  | exhausted empty => exact .exhausted empty
  | @drawn key source mem picked =>
    dsimp only
    have v := visit_inv { c with source } npc key
    generalize { c with source }.visit npc key = r at v
    obtain ⟨result, c'⟩ := r
    cases result with
    | ok => exact .shown mem picked v
    | error e => exact .failed mem picked v

/-- A random visit that fails leaves all but the source of random numbers as it was. -/
lemma VisitDrawn.error_eq {c c' : Conversation σ} {npc e}
    (v : VisitDrawn c npc (.error e, c')) : ∃ source, c' = { c with source } := by
  cases v with
  | exhausted _ => exact ⟨c.source, rfl⟩
  | failed _ _ v =>
    obtain ⟨source, rfl⟩ := v.error_eq
    exact ⟨source, rfl⟩

/-- In a session that goes on, a random visit fails only for want of keys or for the node. -/
lemma VisitDrawn.error_navigational {c c' : Conversation σ} {npc e}
    (v : VisitDrawn c npc (.error e, c')) (live : c.phase ≠ .ended) : e.Navigational := by
  cases v with
  | exhausted _ => exact .frontierExhausted
  | failed _ _ v => exact v.error_navigational live

/-- What holds of every node that is shown holds after a random visit that succeeded. -/
lemma VisitDrawn.holds {P : Conversation σ → Prop}
    (shows : ∀ c npc key node items, P (showing c npc key node items))
    {c c' : Conversation σ} {npc key} (v : VisitDrawn c npc (.ok key, c')) : P c' := by
  cases v with
  | shown _ _ v => exact v.holds shows

/-- What persists holds after a random visit, whether it succeeded or failed. -/
lemma VisitDrawn.persists {P : Conversation σ → Prop} (persistent : Persistent P)
    {c : Conversation σ} {npc r} (v : VisitDrawn c npc r) (first : P c) : P r.2 := by
  cases v with
  | exhausted _ => exact first
  | failed _ _ v => exact v.persists persistent (persistent.draws _ _ first)
  | shown _ _ v => exact v.persists persistent (persistent.draws _ _ first)

/-- After a random visit that succeeded, a node is shown. -/
lemma VisitDrawn.presenting {c c' : Conversation σ} {npc key}
    (v : VisitDrawn c npc (.ok key, c')) : c'.phase = .presenting := by
  cases v with
  | shown _ _ v => exact v.presenting

/-- A random visit from outside is refused in an ended session, and else it is a random visit. -/
lemma visitRandom_inv (c : Conversation σ) (npc : Npc) :
    (c.phase = .ended ∧ c.visitRandom npc = (.error .sessionEnded, c)) ∨
      (c.phase ≠ .ended ∧
        c.visitRandom npc = ((c.visitDrawn npc).1.map fun _ => (), (c.visitDrawn npc).2)) := by
  by_cases ended : c.phase = .ended
  · exact .inl ⟨ended, by rw [visitRandom, if_pos ended]⟩
  · refine .inr ⟨ended, ?_⟩
    rw [visitRandom, if_neg ended]
    generalize c.visitDrawn npc = r
    obtain ⟨result, c'⟩ := r
    cases result with
    | ok => rfl
    | error => rfl

/-- What persists holds after a random visit from outside too. -/
lemma visitRandom_persists {P : Conversation σ → Prop} (persistent : Persistent P)
    {c : Conversation σ} (first : P c) (npc : Npc) : P (c.visitRandom npc).2 := by
  obtain ⟨_, e⟩ | ⟨_, e⟩ := c.visitRandom_inv npc
  · rw [e]
    exact first
  · rw [e]
    exact (c.visitDrawn_inv npc).persists persistent first

/-! ## Requests and selections -/

/-- The ways in which requests are carried out, up to the first that fails. -/
inductive Follow (npc : Npc) : Conversation σ → List Navigation → Transition →
    Except DialogueError Transition × Conversation σ → Prop where
  | done {c soFar} :
    Follow npc c [] soFar (.ok soFar, c)
  | restart {c key rest soFar r} :
    Follow npc { c with frontier := c.frontier.push key } rest soFar r →
    Follow npc c (.restart key :: rest) soFar r
  | jump {c c' key rest soFar r} :
    Visit c npc key (.ok (), c') →
    Follow npc c' rest (.presenting key) r →
    Follow npc c (.jump key :: rest) soFar r
  | jumpFailed {c c' key rest soFar e} :
    Visit c npc key (.error e, c') →
    Follow npc c (.jump key :: rest) soFar (.error e, c')
  | resume {c c' key rest soFar r} :
    VisitDrawn c npc (.ok key, c') →
    Follow npc c' rest (.presenting key) r →
    Follow npc c (.resume :: rest) soFar r
  | resumeFailed {c c' rest soFar e} :
    VisitDrawn c npc (.error e, c') →
    Follow npc c (.resume :: rest) soFar (.error e, c')

/-- Requests are carried out in the ways of `Follow`. -/
lemma follow_inv (c : Conversation σ) (npc : Npc) (requests : List Navigation)
    (soFar : Transition) : Follow npc c requests soFar (c.follow npc requests soFar) := by
  induction requests generalizing c soFar with
  | nil => exact .done
  | cons request rest ih =>
    cases request with
    | restart key => exact .restart (ih _ soFar)
    | jump key =>
      have v := c.visit_inv npc key
      rw [follow]
      generalize c.visit npc key = r at v
      obtain ⟨result, c'⟩ := r
      cases result with
      | ok => exact .jump v (ih c' _)
      | error => exact .jumpFailed v
    | resume =>
      have v := c.visitDrawn_inv npc
      rw [follow]
      generalize c.visitDrawn npc = r at v
      obtain ⟨result, c'⟩ := r
      cases result with
      | ok key => exact .resume v (ih c' _)
      | error => exact .resumeFailed v

/-- What holds of every node that is shown, and does not depend on the frontier, holds after
requests that made a move: after the last visit they only put keys into the frontier. -/
lemma Follow.holds {P : Conversation σ → Prop}
    (shows : ∀ c npc key node items, P (showing c npc key node items))
    (pushes : ∀ c key, P c → P { c with frontier := c.frontier.push key })
    {c : Conversation σ} {npc requests soFar r} (f : Follow npc c requests soFar r)
    (before : ∀ key, soFar = .presenting key → P c) {key : Key}
    (moved : r.1 = .ok (.presenting key)) : P r.2 := by
  induction f with
  | done =>
    cases moved
    exact before key rfl
  | restart _ ih => exact ih (fun key e => pushes _ _ (before key e)) moved
  | jump v _ ih => exact ih (fun _ _ => v.holds shows) moved
  | jumpFailed _ => cases moved
  | resume v _ ih => exact ih (fun _ _ => v.holds shows) moved
  | resumeFailed _ => cases moved

/-- What persists holds after any requests, up to the one that fails, if one does. -/
lemma Follow.persists {P : Conversation σ → Prop} (persistent : Persistent P)
    {c : Conversation σ} {npc requests soFar r} (f : Follow npc c requests soFar r)
    (first : P c) : P r.2 := by
  induction f with
  | done => exact first
  | restart _ ih => exact ih (persistent.pushes _ _ first)
  | jump v _ ih => exact ih (v.persists persistent first)
  | jumpFailed v => exact v.persists persistent first
  | resume v _ ih => exact ih (v.persists persistent first)
  | resumeFailed v => exact v.persists persistent first

/-- Requests that are followed in a session that goes on end with no other errors than those of
visits. -/
lemma Follow.error_navigational {c : Conversation σ} {npc requests soFar r}
    (f : Follow npc c requests soFar r) (live : c.phase ≠ .ended) {e : DialogueError}
    (failed : r.1 = .error e) : e.Navigational := by
  induction f with
  | done => cases failed
  | restart _ ih => exact ih live failed
  | jump v _ ih =>
    refine ih ?_ failed
    rw [v.presenting]
    exact nofun
  | jumpFailed v =>
    cases failed
    exact v.error_navigational live
  | resume v _ ih =>
    refine ih ?_ failed
    rw [v.presenting]
    exact nofun
  | resumeFailed v =>
    cases failed
    exact v.error_navigational live

omit [Surface σ] in
/-- In a session that goes on, the live episode decides on selections. -/
lemma accept_of_live {c : Conversation σ} {e : Episode} (going_on : c.phase ≠ .ended)
    (live : c.episode = some e) (s : Selection) : c.accept s = e.accept s := by
  rw [accept, if_neg going_on, live]

omit [Surface σ] in
/-- While no episode is live, selections are refused whatever they are. -/
lemma accept_unshown {c : Conversation σ} (unshown : c.episode = none) (s : Selection) :
    c.accept s = .error (if c.phase = .ended then .afterEnd else .nothingShown) := by
  rw [accept, unshown]
  split
  · rfl
  · rfl

omit [Surface σ] in
/-- An accepted selection is one of the live episode. -/
lemma accept_ok {c : Conversation σ} {s : Selection} {action : Action}
    (accepted : c.accept s = .ok action) :
    c.phase ≠ .ended ∧ ∃ e, c.episode = some e ∧ e.accept s = .ok action := by
  rw [accept] at accepted
  split at accepted
  · cases accepted
  · rename_i live
    split at accepted
    · cases accepted
    · rename_i e shown
      exact ⟨live, e, shown, accepted⟩

omit [Surface σ] in
/-- A selection is accepted by the episode that is live. -/
lemma accept_live {c : Conversation σ} {s : Selection} {action : Action} {e : Episode}
    (live : c.episode = some e) (accepted : c.accept s = .ok action) : e.accept s = .ok action := by
  obtain ⟨_, e', live', accepted⟩ := accept_ok accepted
  rw [live] at live'
  cases live'
  exact accepted

/-- A selection that is refused changes nothing. -/
lemma select_refused {c : Conversation σ} {s : Selection} {v : Violation}
    (refused : c.accept s = .error v) (npc : Npc) :
    c.select npc s = (.error (.protocolViolation v), c, npc) := by
  rw [select, refused]

/-- A selection that is accepted uses up the episode, and its action is run and followed. -/
lemma select_accepted {c : Conversation σ} {s : Selection} {action : Action}
    (accepted : c.accept s = .ok action) (npc : Npc) :
    c.select npc s =
      ((c.consumed.follow (npc.acted action) (action npc.state).2 .stalled).1,
        (c.consumed.follow (npc.acted action) (action npc.state).2 .stalled).2,
        npc.acted action) := by
  rw [select, accepted]
  rfl

/-- An event that reports nothing changes the surface at most. -/
lemma handleEvent_silent {c : Conversation σ} {event : InputEvent}
    (silent : (Surface.respond c.surface event).1 = none) (npc : Npc) :
    c.handleEvent npc event = (.ok none, c.heard event, npc) := by
  rw [handleEvent, heard]
  generalize Surface.respond c.surface event = r at silent
  obtain ⟨reported, surface⟩ := r
  cases silent
  rfl

/-- An event that reports a selection selects it. -/
lemma handleEvent_reported {c : Conversation σ} {event : InputEvent} {s : Selection}
    (reported : (Surface.respond c.surface event).1 = some s) (npc : Npc) :
    c.handleEvent npc event =
      (((c.heard event).select npc s).1.map some, ((c.heard event).select npc s).2) := by
  rw [handleEvent, heard]
  generalize Surface.respond c.surface event = r at reported
  obtain ⟨selection, surface⟩ := r
  cases reported
  rfl

end Conversation

end Parley
