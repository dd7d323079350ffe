import Parley.Proofs.Conversation.Inversion
import Parley.Surface.Recorder

/-!
# Requests of an action

What becomes of the requests that an action makes, in any order and number. At each moment a
request is carried out (`Carried`) or it fails (`Fails`), never both. `CarriedOut` is a list of
requests that are carried out one after the other, together with the keys that they move to.
Following a list means to go on from where its first requests led (`CarriedOut.follow`) and to stop
at one that fails (`Fails.follow`). `select_follows` puts together what a selection makes of its
requests.
-/

namespace Parley

/-- Whether a request moves the conversation. -/
def Navigation.isMove : Navigation → Bool
  | .restart _ => false
  | .jump _ | .resume => true

/-- The key that a request puts into the frontier. -/
def Navigation.restarted? : Navigation → Option Key
  | .restart key => some key
  | .jump _ | .resume => none

/-- Why a node of a character cannot be shown: there is none under the key, or it presents from a
collection that there is not. -/
inductive Npc.Lacks (npc : Npc) (collections : Collections) (key : Key) : DialogueError → Prop where
  | node :
    npc.graph.get? key = none →
    Lacks npc collections key (.unknownNode key)
  | collection {node p} :
    npc.graph.get? key = some node →
    (node.offer npc.speaker).presentation = some p →
    collections.resolve? p.collection = none →
    Lacks npc collections key (.unsupportedCollection p.collection)

/-! ## Calls of a surface -/

namespace Surface

variable {σ : Type} [Surface σ]

/-- The second surface comes from the first by calls of which `n` are resets. -/
inductive Redrawn : (n : Nat) → σ → σ → Prop where
  | same {s} :
    Redrawn 0 s s
  | reset {n s s'} :
    Redrawn n s s' →
    Redrawn (n + 1) s (Surface.reset s')
  | addText {n s s'} (text : String) :
    Redrawn n s s' →
    Redrawn n s (Surface.addText s' text)
  | addChoice {n s s'} (label : String) (handle : ChoiceHandle) :
    Redrawn n s s' →
    Redrawn n s (Surface.addChoice s' label handle)
  | addPresent {n s s'} (items : List Item) (handle : PresentHandle) :
    Redrawn n s s' →
    Redrawn n s (Surface.addPresent s' items handle)

/-- Resets add up over calls one after the other. -/
lemma Redrawn.trans {m n : Nat} {s1 s2 s3 : σ} (first : Redrawn m s1 s2)
    (later : Redrawn n s2 s3) : Redrawn (m + n) s1 s3 := by
  induction later with
  | same => exact first
  | reset _ ih => exact .reset (ih first)
  | addText text _ ih => exact .addText text (ih first)
  | addChoice label handle _ ih => exact .addChoice label handle (ih first)
  | addPresent items handle _ ih => exact .addPresent items handle (ih first)

/-- A recorder counts the resets. -/
lemma Redrawn.resets {n : Nat} {r r' : Recorder} (redrawn : Redrawn n r r') :
    r'.resets = r.resets + n := by
  induction redrawn with
  | same => rfl
  | reset _ ih => exact congrArg (· + 1) ih
  | addText _ _ ih => exact ih
  | addChoice _ _ _ ih => exact ih
  | addPresent _ _ _ ih => exact ih

end Surface

namespace Conversation

variable {σ : Type} [Surface σ]

/-- Adding choices does not reset a surface. -/
lemma redrawn_addChoices {n : Nat} {s s' : σ} (redrawn : Surface.Redrawn n s s') (id : Nat)
    (choices : List Choice) (index : Nat) :
    Surface.Redrawn n s (addChoices id choices index s') := by
  induction choices generalizing s' index with
  | nil => exact redrawn
  | cons choice rest ih => exact ih (redrawn.addChoice choice.label ⟨id, index⟩) (index + 1)

/-- Showing an episode resets the surface once. -/
lemma redrawn_display (s : σ) (id : Nat) (text : String) (choices : List Choice)
    (items : Option (List Item)) : Surface.Redrawn 1 s (display s id text choices items) := by
  have cleared : Surface.Redrawn 1 s (Surface.reset s) := .reset .same
  have written := redrawn_addChoices (cleared.addText text) id choices 0
  cases items with
  | none => exact written
  | some items => exact written.addPresent items ⟨id⟩

/-! ## One request -/

/-- A request that is carried out, with the key that it moves to. -/
inductive Carried (npc : Npc) (c : Conversation σ) :
    Navigation → Option Key → Conversation σ → Prop where
  | restart (key : Key) :
    Carried npc c (.restart key) none { c with frontier := c.frontier.push key }
  | jump {key node items} :
    npc.graph.get? key = some node →
    collect c.collections (node.offer npc.speaker).presentation = .ok items →
    Carried npc c (.jump key) (some key) (c.showing npc key node items)
  | resume {key source node items} :
    key ∈ c.frontier.keys →
    c.frontier.pick c.source = (some key, source) →
    npc.graph.get? key = some node →
    collect c.collections (node.offer npc.speaker).presentation = .ok items →
    Carried npc c .resume (some key) (showing { c with source } npc key node items)

/-- A request that fails, with its error. -/
inductive Fails (npc : Npc) (c : Conversation σ) : Navigation → DialogueError → Prop where
  | jump {key e} :
    npc.Lacks c.collections key e →
    Fails npc c (.jump key) e
  | resume {key source e} :
    key ∈ c.frontier.keys →
    c.frontier.pick c.source = (some key, source) →
    npc.Lacks c.collections key e →
    Fails npc c .resume e
  | exhausted :
    c.frontier.keys = [] →
    Fails npc c .resume .frontierExhausted

/-- A visit that succeeded has shown the node of the key, with the items that it presents. -/
lemma Visit.shown_inv {c c' : Conversation σ} {npc key} (v : Visit c npc key (.ok (), c')) :
    ∃ node items, npc.graph.get? key = some node ∧
      collect c.collections (node.offer npc.speaker).presentation = .ok items ∧
      c' = c.showing npc key node items := by
  cases v with
  | shown _ found collected => exact ⟨_, _, found, collected, rfl⟩

/-- In a session that goes on, a visit fails because of what is not there. -/
lemma Visit.lacks {c c' : Conversation σ} {npc key e} (v : Visit c npc key (.error e, c'))
    (live : c.phase ≠ .ended) : npc.Lacks c.collections key e := by
  cases v with
  | ended ended => exact absurd ended live
  | unknown _ missing => exact .node missing
  | unsupported _ found offered missing => exact .collection found offered missing

/-- In a session that goes on, every request is carried out or fails. -/
lemma carried_or_fails {c : Conversation σ} (live : c.phase ≠ .ended) (npc : Npc)
    (request : Navigation) :
    (∃ moved c', Carried npc c request moved c') ∨ ∃ e, Fails npc c request e := by
  cases request with
  | restart key => exact .inl ⟨none, _, .restart key⟩
  | jump key =>
    have v := c.visit_inv npc key
    generalize c.visit npc key = r at v
    obtain ⟨result, c'⟩ := r
    cases result with
    | ok =>
      obtain ⟨_, _, found, collected, _⟩ := v.shown_inv
      exact .inl ⟨some key, _, .jump found collected⟩
    | error e => exact .inr ⟨e, .jump (v.lacks live)⟩
  | resume =>
    have v := c.visitDrawn_inv npc
    generalize c.visitDrawn npc = r at v
    cases v with
    | exhausted empty => exact .inr ⟨_, .exhausted empty⟩
    | failed mem picked v => exact .inr ⟨_, .resume mem picked (v.lacks live)⟩
    | shown mem picked v =>
      obtain ⟨_, _, found, collected, _⟩ := v.shown_inv
      exact .inl ⟨_, _, .resume mem picked found collected⟩

/-- In a session that goes on, a node that is there and can be shown is shown. -/
lemma visit_shown {c : Conversation σ} {npc : Npc} {key : Key} {node : Node}
    {items : Option (List Item × (Item → Action))} (live : c.phase ≠ .ended)
    (found : npc.graph.get? key = some node)
    (collected : collect c.collections (node.offer npc.speaker).presentation = .ok items) :
    c.visit npc key = (.ok (), c.showing npc key node items) := by
  have here : npc.graph.lookup key = .ok node := by rw [Graph.lookup, found]
  rw [visit_eq, if_neg live, present, here]
  dsimp only
  rw [collected]
  rfl

/-- A node that is not there, or cannot be shown, makes a visit fail. -/
lemma visit_lacks {c : Conversation σ} {npc : Npc} {key : Key} {e : DialogueError}
    (live : c.phase ≠ .ended) (lacks : npc.Lacks c.collections key e) :
    ∃ source, c.visit npc key = (.error e, { c with source }) := by
  cases lacks with
  | node missing =>
    have nowhere : npc.graph.lookup key = .error (.unknownNode key) := by
      rw [Graph.lookup, missing]
    rw [visit_eq, if_neg live, present, nowhere]
    exact ⟨c.source, rfl⟩
  | @collection node p found offered missing =>
    have here : npc.graph.lookup key = .ok node := by rw [Graph.lookup, found]
    have uncollected : collect c.collections (node.offer npc.speaker).presentation =
        .error (.unsupportedCollection p.collection) := by
      rw [offered, collect, missing]
    rw [visit_eq, if_neg live, present, here]
    dsimp only
    rw [uncollected]
    exact ⟨_, rfl⟩

omit [Surface σ] in
/-- The key that is picked from the frontier is the one drawn. -/
lemma drawKey_picked {c : Conversation σ} {key : Key} {source : Random.Source}
    (picked : c.frontier.pick c.source = (some key, source)) :
    c.drawKey = (.ok key, { c with source }) := by
  rw [drawKey, picked]

omit [Surface σ] in
/-- Nothing is drawn from an empty frontier, not even random numbers. -/
lemma drawKey_empty {c : Conversation σ} (empty : c.frontier.keys = []) :
    c.drawKey = (.error .frontierExhausted, c) := by
  have drawing := c.drawKey_inv
  generalize c.drawKey = r at drawing
  cases drawing with
  | exhausted _ => rfl
  | drawn mem _ =>
    rw [empty] at mem
    cases mem

/-! ## Requests in order -/

/-- The outcome after moves to these keys: the last one counts. -/
def arrival (keys : List Key) (soFar : Transition) : Transition :=
  (keys.getLast?.map Transition.presenting).getD soFar

/-- Later moves count more than earlier ones. -/
lemma arrival_append (earlier later : List Key) (soFar : Transition) :
    arrival (earlier ++ later) soFar = arrival later (arrival earlier soFar) := by
  cases later with
  | nil => rw [List.append_nil]; rfl
  | cons key rest =>
    have last : (key :: rest).getLast? = some ((key :: rest).getLast nofun) :=
      List.getLast?_eq_some_getLast _
    rw [arrival, List.getLast?_append, last]
    simp [arrival, last]

/-- Without a move nothing becomes of requests. -/
lemma arrival_eq_stalled_iff {keys : List Key} : arrival keys .stalled = .stalled ↔ keys = [] := by
  cases e : keys.getLast? with
  | none => simp [arrival, List.getLast?_eq_none_iff.1 e]
  | some key =>
    have moved : keys ≠ [] := by
      rintro rfl
      cases e
    simp [arrival, e, moved]

/-- Requests that are carried out one after the other, with the keys that they move to. -/
inductive CarriedOut (npc : Npc) :
    Conversation σ → List Navigation → List Key → Conversation σ → Prop where
  | nil {c} :
    CarriedOut npc c [] [] c
  | cons {c c1 c2 request rest moved keys} :
    Carried npc c request moved c1 →
    CarriedOut npc c1 rest keys c2 →
    CarriedOut npc c (request :: rest) (moved.toList ++ keys) c2

omit [Surface σ] in
/-- Only moves fail. -/
lemma Fails.isMove {c : Conversation σ} {npc request e} (fails : Fails npc c request e) :
    request.isMove = true := by
  cases fails <;> rfl

/-- A request does not end the session. -/
lemma Carried.live {c c' : Conversation σ} {npc request moved}
    (carried : Carried npc c request moved c') (live : c.phase ≠ .ended) : c'.phase ≠ .ended := by
  cases carried with
  | restart key => exact live
  | jump _ _ => exact nofun
  | resume _ _ _ _ => exact nofun

/-- Requests that are carried out do not end the session. -/
lemma CarriedOut.live {c c' : Conversation σ} {npc requests keys}
    (out : CarriedOut npc c requests keys c') (live : c.phase ≠ .ended) : c'.phase ≠ .ended := by
  induction out with
  | nil => exact live
  | cons carried _ ih => exact ih (carried.live live)

/-- Following a request that is carried out means to follow the others from there. -/
lemma Carried.follow {c c' : Conversation σ} {npc request moved}
    (carried : Carried npc c request moved c') (live : c.phase ≠ .ended)
    (rest : List Navigation) (soFar : Transition) :
    c.follow npc (request :: rest) soFar = c'.follow npc rest (arrival moved.toList soFar) := by
  cases carried with
  | restart key => rfl
  | jump found collected =>
    rw [Conversation.follow, visit_shown live found collected]
    rfl
  | @resume key source node items mem picked found collected =>
    have shown : visit { c with source } npc key =
        (.ok (), showing { c with source } npc key node items) := visit_shown live found collected
    rw [Conversation.follow, visitDrawn, drawKey_picked picked]
    dsimp only
    rw [shown]
    rfl

/-- Following requests of which the first are carried out means to follow the others from there. -/
lemma CarriedOut.follow {c c' : Conversation σ} {npc requests keys}
    (out : CarriedOut npc c requests keys c') (live : c.phase ≠ .ended)
    (rest : List Navigation) (soFar : Transition) :
    c.follow npc (requests ++ rest) soFar = c'.follow npc rest (arrival keys soFar) := by
  -- each move replaces the outcome so far, so it is not fixed in the induction
  induction out generalizing soFar with
  | nil => rfl
  | cons carried _ ih =>
    rw [List.cons_append, carried.follow live, ih (carried.live live), arrival_append]

/-- Following a request that fails ends there, and changes at most the source of random numbers. -/
lemma Fails.follow {c : Conversation σ} {npc request e} (fails : Fails npc c request e)
    (live : c.phase ≠ .ended) (rest : List Navigation) (soFar : Transition) :
    ∃ source, c.follow npc (request :: rest) soFar = (.error e, { c with source }) := by
  cases fails with
  | jump lacks =>
    obtain ⟨source, failed⟩ := visit_lacks live lacks
    refine ⟨source, ?_⟩
    rw [Conversation.follow, failed]
  | @resume key drawn e mem picked lacks =>
    obtain ⟨source, failed⟩ := visit_lacks (c := { c with source := drawn }) live lacks
    refine ⟨source, ?_⟩
    rw [Conversation.follow, visitDrawn, drawKey_picked picked]
    dsimp only
    rw [failed]
  | exhausted empty =>
    refine ⟨c.source, ?_⟩
    rw [Conversation.follow, visitDrawn, drawKey_empty empty]

/-- Following requests that are all carried out leads to the key of the last move. -/
lemma CarriedOut.follow_all {c c' : Conversation σ} {npc requests keys}
    (out : CarriedOut npc c requests keys c') (live : c.phase ≠ .ended) (soFar : Transition) :
    c.follow npc requests soFar = (.ok (arrival keys soFar), c') := by
  have followed := out.follow live [] soFar
  rwa [List.append_nil] at followed

/-- Following requests up to one that fails stops at what those before it have led to. -/
lemma CarriedOut.follow_fails {c c' : Conversation σ} {npc done keys request e}
    (out : CarriedOut npc c done keys c') (fails : Fails npc c' request e)
    (live : c.phase ≠ .ended) (later : List Navigation) (soFar : Transition) :
    ∃ source, c.follow npc (done ++ request :: later) soFar = (.error e, { c' with source }) := by
  rw [out.follow live]
  exact fails.follow (out.live live) later _

/-- Requests are carried out up to the first that fails. -/
lemma carriedOut_or_fails {c : Conversation σ} (live : c.phase ≠ .ended) (npc : Npc)
    (requests : List Navigation) :
    (∃ keys c', CarriedOut npc c requests keys c') ∨
      ∃ done request later keys c' e, requests = done ++ request :: later ∧
        CarriedOut npc c done keys c' ∧ Fails npc c' request e := by
  induction requests generalizing c with
  | nil => exact .inl ⟨[], c, .nil⟩
  | cons request rest ih =>
    obtain ⟨moved, c1, carried⟩ | ⟨e, fails⟩ := carried_or_fails live npc request
    · obtain ⟨keys, c2, out⟩ | ⟨done, failing, later, keys, c2, e, rfl, out, fails⟩ :=
        ih (carried.live live)
      · exact .inl ⟨_, c2, .cons carried out⟩
      · exact .inr ⟨request :: done, failing, later, _, c2, e, rfl, .cons carried out, fails⟩
    · exact .inr ⟨[], request, rest, [], c, e, rfl, .nil, fails⟩

/-! ## What requests leave behind -/

/-- There is one key for every move. -/
lemma CarriedOut.length_keys {c c' : Conversation σ} {npc requests keys}
    (out : CarriedOut npc c requests keys c') :
    keys.length = requests.countP Navigation.isMove := by
  induction out with
  | nil => rfl
  | cons carried _ ih =>
    rw [List.length_append, ih, List.countP_cons, Nat.add_comm]
    cases carried <;> rfl

/-- The key of the last move is presented, or the same as before without a move. -/
lemma CarriedOut.currentKey {c c' : Conversation σ} {npc requests keys}
    (out : CarriedOut npc c requests keys c') :
    c'.currentKey = keys.getLast?.or c.currentKey := by
  induction out with
  | nil => rfl
  | cons carried _ ih =>
    rw [ih, List.getLast?_append, Option.or_assoc]
    cases carried <;> rfl

/-- After a move a node is presented. -/
lemma CarriedOut.presenting {c c' : Conversation σ} {npc requests keys}
    (out : CarriedOut npc c requests keys c') (moved : keys ≠ [] ∨ c.phase = .presenting) :
    c'.phase = .presenting := by
  induction out with
  | nil => exact moved.resolve_left (not_not_intro rfl)
  | cons carried _ ih =>
    cases carried with
    | restart key => exact ih moved
    | jump _ _ => exact ih (.inr rfl)
    | resume _ _ _ _ => exact ih (.inr rfl)

/-- The surface is reset once for every move. -/
lemma CarriedOut.redrawn {c c' : Conversation σ} {npc requests keys}
    (out : CarriedOut npc c requests keys c') :
    Surface.Redrawn keys.length c.surface c'.surface := by
  induction out with
  | nil => exact .same
  | cons carried _ ih =>
    rw [List.length_append]
    refine Surface.Redrawn.trans ?_ ih
    cases carried with
    | restart key => exact .same
    | jump _ _ => exact redrawn_display _ _ _ _ _
    | resume _ _ _ _ => exact redrawn_display _ _ _ _ _

/-- Without a move only the frontier changes: it takes the restarted keys in order. -/
lemma carriedOut_restarts (c : Conversation σ) (npc : Npc) {requests : List Navigation}
    (unmoved : ∀ request ∈ requests, request.isMove = false) :
    CarriedOut npc c requests []
      { c with frontier := c.frontier.extend (requests.filterMap Navigation.restarted?) } := by
  induction requests generalizing c with
  | nil =>
    have same : c.frontier.extend [] = c.frontier := by rw [Frontier.extend, List.append_nil]
    rw [List.filterMap_nil, same]
    exact .nil
  | cons request rest ih =>
    cases request with
    | restart key =>
      have later := ih { c with frontier := c.frontier.push key } fun request mem =>
        unmoved request (List.mem_cons_of_mem _ mem)
      have joined : (c.frontier.push key).extend (rest.filterMap Navigation.restarted?) =
          c.frontier.extend (key :: rest.filterMap Navigation.restarted?) := by
        simp [Frontier.push, Frontier.extend]
      rw [joined] at later
      exact .cons (.restart key) later
    | jump key => cases unmoved (.jump key) List.mem_cons_self
    | resume => cases unmoved .resume List.mem_cons_self

/-- A selection whose requests are all carried out leads to the key of the last move. -/
lemma select_finished {c c' : Conversation σ} {s : Selection} {action : Action} {npc : Npc} {keys}
    (accepted : c.accept s = .ok action)
    (out : CarriedOut (npc.acted action) c.consumed (action npc.state).2 keys c') :
    (c.select npc s).1 = .ok (arrival keys .stalled) ∧ (c.select npc s).2.1 = c' := by
  rw [select_accepted accepted, out.follow_all c.consumed_open]
  exact ⟨rfl, rfl⟩

/-- A selection with a request that fails ends there, with the error of that request. -/
lemma select_stopped {c c' : Conversation σ} {s : Selection} {action : Action} {npc : Npc}
    {done request later keys e} (accepted : c.accept s = .ok action)
    (split : (action npc.state).2 = done ++ request :: later)
    (out : CarriedOut (npc.acted action) c.consumed done keys c')
    (fails : Fails (npc.acted action) c' request e) :
    (c.select npc s).1 = .error e ∧ ∃ source, (c.select npc s).2.1 = { c' with source } := by
  obtain ⟨source, failed⟩ := out.follow_fails fails c.consumed_open later .stalled
  rw [select_accepted accepted, split, failed]
  exact ⟨rfl, source, rfl⟩

/-- What a selection makes of the requests of its action, which it follows in order. It stalls if
and only if no request is a move, and then the frontier has taken the restarted keys and all else is
as it was when the episode had been used up. If there is a move and no error, then all requests were
carried out, the node of the last move is presented, and the surface was reset once for each move.
If a request fails after those before it were carried out, then its error is the result, and the
conversation stays as those before have left it, except for the source of random numbers; there is
no other way to an error. -/
theorem select_follows {c : Conversation σ} {s : Selection} {action : Action}
    (accepted : c.accept s = .ok action) (npc : Npc) :
    let speaker := npc.acted action
    let requests := (action npc.state).2
    let result := (c.select npc s).1
    let after := (c.select npc s).2.1
    (result = .ok .stalled ↔ ∀ request ∈ requests, request.isMove = false) ∧
    ((∀ request ∈ requests, request.isMove = false) → after =
      { c.consumed with
        frontier := c.frontier.extend (requests.filterMap Navigation.restarted?) }) ∧
    ((∃ request ∈ requests, request.isMove = true) → (∀ e, result ≠ .error e) →
      ∃ keys key, CarriedOut speaker c.consumed requests keys after ∧
        keys.getLast? = some key ∧ result = .ok (.presenting key) ∧
        after.currentKey = some key ∧ after.phase = .presenting ∧
        Surface.Redrawn (requests.countP Navigation.isMove) c.surface after.surface) ∧
    (∀ done request later keys c' e, requests = done ++ request :: later →
      CarriedOut speaker c.consumed done keys c' → Fails speaker c' request e →
      result = .error e ∧ ∃ source, after = { c' with source }) ∧
    (∀ e, result = .error e → ∃ done request later keys c', requests = done ++ request :: later ∧
      CarriedOut speaker c.consumed done keys c' ∧ Fails speaker c' request e) := by
  intro speaker requests result after
  have live := c.consumed_open
  have finished {keys c'} (out : CarriedOut speaker c.consumed requests keys c') :
      result = .ok (arrival keys .stalled) ∧ after = c' := select_finished accepted out
  have stopped {done request later keys c' e} (split : requests = done ++ request :: later)
      (out : CarriedOut speaker c.consumed done keys c') (fails : Fails speaker c' request e) :
      result = .error e ∧ ∃ source, after = { c' with source } :=
    select_stopped accepted split out fails
  refine ⟨?_, ?_, ?_, fun _ _ _ _ _ _ => stopped, ?_⟩
  -- without a failure the outcome is the last arrival, and a request that fails is itself a move
  · obtain ⟨keys, c', out⟩ | ⟨done, request, later, keys, c', e, split, out, fails⟩ :=
      carriedOut_or_fails live speaker requests
    · rw [(finished out).1, Except.ok.injEq, arrival_eq_stalled_iff, ← List.length_eq_zero_iff,
        out.length_keys, List.countP_eq_zero]
      simp
    · rw [(stopped split out fails).1]
      refine ⟨nofun, fun unmoved => ?_⟩
      have mem : request ∈ requests := split ▸ List.mem_append_right done List.mem_cons_self
      have still := unmoved request mem
      rw [fails.isMove] at still
      cases still
  · exact fun unmoved => (finished (carriedOut_restarts c.consumed speaker unmoved)).2
  · rintro ⟨request, mem, moves⟩ unfailed
    obtain ⟨keys, c', out⟩ | ⟨_, _, _, _, _, e, split, out, fails⟩ :=
      carriedOut_or_fails live speaker requests
    · obtain ⟨outcome, rfl⟩ := finished out
      have moved : 0 < keys.length := by
        rw [out.length_keys, List.countP_pos_iff]
        exact ⟨request, mem, moves⟩
      have some_key : keys ≠ [] := List.length_pos_iff.1 moved
      have last := List.getLast?_eq_some_getLast some_key
      refine ⟨keys, keys.getLast some_key, out, last, ?_, ?_, out.presenting (.inl some_key), ?_⟩
      · rw [outcome, arrival, last]
        rfl
      · rw [out.currentKey, last]
        rfl
      · rw [← out.length_keys]
        exact out.redrawn
    · exact absurd (stopped split out fails).1 (unfailed e)
  -- an error is that of the first request that fails, since the others are carried out
  · intro e failed
    obtain ⟨keys, c', out⟩ | ⟨done, request, later, keys, c', e', split, out, fails⟩ :=
      carriedOut_or_fails live speaker requests
    · rw [(finished out).1] at failed
      cases failed
    · rw [(stopped split out fails).1] at failed
      cases failed
      exact ⟨done, request, later, keys, c', split, out, fails⟩

/-- An action restarts the hill and goes there, and then to a dale that is nowhere: the hill is
presented, taken out of the frontier again, and the last request is not reached. -/
theorem select_follows_halfway :
    let hill : Key := ⟨"hill"⟩
    let dale : Key := ⟨"dale"⟩
    let climb : Action := fun state => (state, [.restart hill, .jump hill, .jump dale, .resume])
    let node := (Node.fixed "Uphill.").withOffer fun _ => ChoiceSet.empty.withChoice "On" climb
    let guide : Npc := ⟨"guide", .empty, Graph.empty.insert hill node⟩
    let c := (create Recorder.blank .empty (.ofSeed 0)).showing guide hill node none
    let after := (c.select guide (.choice ⟨1, 0⟩)).2.1
    c.accept (.choice ⟨1, 0⟩) = .ok climb ∧
      (c.select guide (.choice ⟨1, 0⟩)).1 = .error (.unknownNode dale) ∧
      after.currentKey = some hill ∧ after.frontier = .empty ∧
      after.surface.resets = c.surface.resets + 1 := by
  intro hill dale climb node guide c after
  have accepted : c.accept (.choice ⟨1, 0⟩) = .ok climb := rfl
  have found : (guide.acted climb).graph.get? hill = some node := Dictionary.get?_insert_self ..
  have missing : (guide.acted climb).graph.get? dale = none := rfl
  let restarted : Conversation Recorder := { c.consumed with frontier := ⟨[hill]⟩ }
  have jumps : Carried (guide.acted climb) restarted (.jump hill) (some hill)
      (restarted.showing (guide.acted climb) hill node none) := .jump found rfl
  have out := CarriedOut.cons (.restart hill) (.cons jumps .nil)
  obtain ⟨_, _, _, stopped, _⟩ := select_follows accepted guide
  obtain ⟨failed, source, stays⟩ :=
    stopped _ (.jump dale) [.resume] _ _ _ rfl out (.jump (.node missing))
  refine ⟨accepted, failed, ?_, ?_, ?_⟩
  · exact (congrArg currentKey stays).trans out.currentKey
  · exact congrArg frontier stays
  · exact (congrArg (·.surface.resets) stays).trans out.redrawn.resets

end Conversation

end Parley
