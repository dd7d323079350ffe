import Parley.Proofs.Conversation.Offers
import Parley.Proofs.Game.Playthrough
import Parley.Scenario.Builtin

/-!
# The built-in scenario

There are six places in the noblewoman's graph, and at each of them exactly one key waits in the
frontier (`Place.waiting`): her first words and the weather take turns there. `At` says that a
conversation is at a place. What is selected at a place always leads to a place again
(`At.select`), where the only way to the win is to present pants; so a playthrough with her never
breaks off (`play_ends`).
-/

namespace Parley

/-- The key at which conversations start is a number. -/
lemma Key.entry_eq : Key.entry = ⟨"0"⟩ := by
  simp [entry, ofInt, Decimal.ofInt, Decimal.ofNat, Decimal.digits, Decimal.digit]

/-- A key is the entry key if and only if its name is zero. -/
lemma Key.mk_eq_entry {name : String} : (⟨name⟩ : Key) = .entry ↔ name = "0" := by
  rw [entry_eq, mk.injEq]

/-- The same with the sides of the equations exchanged. -/
lemma Key.entry_eq_mk {name : String} : .entry = (⟨name⟩ : Key) ↔ "0" = name := by
  rw [entry_eq, mk.injEq]

end Parley

namespace Parley.Builtin

/-! ## Places -/

/-- The nodes of the noblewoman. -/
inductive Place where
  | welcome
  | children
  | royalty
  | win
  | weather
  | wrong
deriving DecidableEq

namespace Place

/-- The key of a place. -/
def key : Place → Key
  | welcome => .entry
  | children => ⟨"children"⟩
  | royalty => ⟨"royalty"⟩
  | win => ⟨"win"⟩
  | weather => weatherKey
  | wrong => ⟨"wrong"⟩

/-- The key that waits in the frontier while the conversation is at a place. -/
def waiting : Place → Key
  | weather => .entry
  | _ => weatherKey

/-- What is offered at a place. -/
def offer : Place → ChoiceSet
  | welcome => welcomeOffer
  | children | royalty => backTo .entry
  | win => .empty
  | weather => backTo weatherKey
  | wrong => ChoiceSet.empty.withChoice "choose again" fun s => (s, [.jump .entry])

/-- Places have different keys. -/
lemma key_injective {p q : Place} (same : p.key = q.key) : p = q := by
  cases p <;> cases q <;>
    first | rfl | simp [key, Key.mk_eq_entry, Key.entry_eq_mk, weatherKey] at same

/-- No place waits for its own key to be visited. -/
lemma key_ne_waiting (p : Place) : p.key ≠ p.waiting := by
  cases p <;> simp [key, waiting, Key.mk_eq_entry, Key.entry_eq_mk, weatherKey]

/-- Each place has its node, which offers the same to everyone. -/
lemma exists_node (p : Place) : ∃ node, graph.get? p.key = some node ∧
    (∀ speaker, node.offer speaker = p.offer) ∧
    (p = win → ∀ speaker source, (node.utter speaker source).1 = "you win") := by
  cases p <;>
    refine ⟨_, by
      simp only [key, graph, Graph.get?_insert, Key.mk_eq_entry, Key.entry_eq_mk, weatherKey,
        Key.mk.injEq, String.reduceEq, if_true, if_false]
      rfl, fun _ => rfl, ?_⟩
  case win => exact fun _ _ _ => rfl
  all_goals exact nofun

/-- What is offered at a place can be collected, and at the win that is nothing. -/
lemma exists_items (p : Place) :
    ∃ items, Conversation.collect Scenario.builtin.collections p.offer.presentation = .ok items ∧
      (p = win → items = none) := by
  cases p with
  | welcome =>
    have resolved : Scenario.builtin.collections.resolve? "things" = some things :=
      Dictionary.get?_insert_self ..
    show ∃ items, Conversation.collect _ (some _) = .ok items ∧ _
    rw [Conversation.collect, resolved]
    refine ⟨_, rfl, fun won => ?_⟩
    cases won
  | _ => exact ⟨none, rfl, fun _ => rfl⟩

/-- The requests that are made at a place: to go to another one where the same key waits, or to
put a key that does not wait into the frontier and go on from there. -/
inductive Asks (p : Place) : List Navigation → Prop where
  | jump (q : Place) :
    p.waiting = weatherKey →
    q.waiting = weatherKey →
    Asks p [.jump q.key]
  | back (key : Key) :
    p.waiting = weatherKey ∧ key = .entry ∨ p.waiting = .entry ∧ key = weatherKey →
    Asks p [.restart key, .resume]

/-- Choices do not touch the state, and ask to go elsewhere than to the win. -/
lemma choice_asks {p : Place} {choice : Choice} (offered : choice ∈ p.offer.choices)
    (state : State) :
    (choice.action state).1 = state ∧ p.Asks (choice.action state).2 ∧
      (choice.action state).2 ≠ [.jump win.key] := by
  cases p with
  | welcome =>
    obtain rfl | offered := List.mem_cons.1 offered
    · exact ⟨rfl, .jump children rfl rfl, by simp [key]⟩
    · obtain rfl := List.mem_singleton.1 offered
      exact ⟨rfl, .jump royalty rfl rfl, by simp [key]⟩
  | win => cases offered
  | wrong =>
    obtain rfl := List.mem_singleton.1 offered
    exact ⟨rfl, .jump welcome rfl rfl, by simp [key, Key.entry_eq_mk]⟩
  | weather =>
    obtain rfl := List.mem_singleton.1 offered
    exact ⟨rfl, .back weatherKey (.inr ⟨rfl, rfl⟩), nofun⟩
  | _ =>
    obtain rfl := List.mem_singleton.1 offered
    exact ⟨rfl, .back .entry (.inl ⟨rfl, rfl⟩), nofun⟩

/-- Only the first node asks for something to be presented. It counts that, and asks for the win
only on pants. -/
lemma presentation_asks {p : Place} {presentation : Presentation}
    (offered : p.offer.presentation = some presentation) (item : Item) (state : State) :
    p = welcome ∧ (presentation.action item state).1 = state.increment "presented" 1 ∧
      p.Asks (presentation.action item state).2 ∧
      ((presentation.action item state).2 = [.jump win.key] → item = ⟨"pants"⟩) := by
  cases p with
  | welcome =>
    obtain rfl := Option.some.inj offered
    by_cases pants : item.name = "pants"
    · have asked : (if item.name = "pants" then ⟨"win"⟩ else ⟨"wrong"⟩ : Key) = win.key :=
        if_pos pants
      refine ⟨rfl, rfl, ?_, fun _ => congrArg Item.mk pants⟩
      dsimp only
      rw [asked]
      exact .jump win rfl rfl
    · have asked : (if item.name = "pants" then ⟨"win"⟩ else ⟨"wrong"⟩ : Key) = wrong.key :=
        if_neg pants
      dsimp only
      rw [asked]
      exact ⟨rfl, rfl, .jump wrong rfl rfl, by simp [key]⟩
  | _ => cases offered

end Place

/-! ## Being at a place -/

section Conversations

variable {σ : Type} [Surface σ]

/-- The page of the win. -/
def lastPage : Page := ⟨["you win"], [], none⟩

/-- The conversation is at a place: its node waits for a selection, and the page offers what is
offered there. -/
structure At (p : Place) (c : Conversation σ) : Prop where
  collections : c.collections = Scenario.builtin.collections
  presenting : c.phase = .presenting
  current : c.currentKey = some p.key
  frontier : c.frontier.keys = [p.waiting]
  faithful : Conversation.Faithful c.collections p.offer (Surface.page c.surface) c
  won : p = .win → Surface.page c.surface = lastPage

variable [LawfulSurface σ]

/-- A visit leads to its place, if it leaves what should wait there. -/
lemma visit_at (p : Place) {c : Conversation σ} {npc : Npc} (graph : npc.graph = graph)
    (collections : c.collections = Scenario.builtin.collections) (live : c.phase ≠ .ended)
    (left : c.frontier.keys.erase p.key = [p.waiting]) :
    ∃ c', c.visit npc p.key = (.ok (), c') ∧ At p c' := by
  obtain ⟨node, found, offers, words⟩ := p.exists_node
  obtain ⟨items, collected, nothing⟩ := p.exists_items
  rw [← graph] at found
  rw [← collections, ← offers npc.speaker] at collected
  refine ⟨_, Conversation.visit_shown live found collected, collections, rfl, rfl, left, ?_, ?_⟩
  · have faithful := Conversation.showing_faithful p.key collected
    rwa [offers npc.speaker] at faithful
  · intro won
    rw [Conversation.showing, Conversation.page_display, words won, offers, nothing won]
    subst won
    rfl

/-- From the two keys of the start, in any order, a random visit leads to one of their places. -/
lemma visitDrawn_at {c : Conversation σ} {npc : Npc} (graph : npc.graph = graph)
    (collections : c.collections = Scenario.builtin.collections) (live : c.phase ≠ .ended)
    (both : c.frontier.keys = [.entry, weatherKey] ∨ c.frontier.keys = [weatherKey, .entry]) :
    ∃ p c', c.visitDrawn npc = (.ok p.key, c') ∧ At p c' ∧ p ≠ .win := by
  -- whichever of the two is drawn, the other one is left to wait
  have start (key : Key) (mem : key ∈ c.frontier.keys) :
      ∃ p : Place, p.key = key ∧ c.frontier.keys.erase p.key = [p.waiting] ∧ p ≠ .win := by
    have one_of : key = .entry ∨ key = weatherKey := by
      obtain e | e := both
      · rw [e, List.mem_cons, List.mem_singleton] at mem
        exact mem
      · rw [e, List.mem_cons, List.mem_singleton] at mem
        exact mem.symm
    obtain rfl | rfl := one_of
    · refine ⟨.welcome, rfl, ?_, nofun⟩
      obtain e | e := both <;> rw [e] <;>
        simp [Place.key, Place.waiting, weatherKey, Key.mk_eq_entry]
    · refine ⟨.weather, rfl, ?_, nofun⟩
      obtain e | e := both <;> rw [e] <;>
        simp [Place.key, Place.waiting, weatherKey, Key.entry_eq_mk]
  have drawing := c.drawKey_inv
  rw [Conversation.visitDrawn]
  generalize c.drawKey = r at drawing
  cases drawing with
  | exhausted empty =>
    obtain e | e := both <;> rw [e] at empty <;> cases empty
  | @drawn key source mem _ =>
    obtain ⟨p, rfl, left, lost⟩ := start key mem
    obtain ⟨c', visited, there⟩ := visit_at p (c := { c with source }) graph collections live left
    refine ⟨p, c', ?_, there, lost⟩
    dsimp only
    rw [visited]

/-- The requests of a place lead to a place. -/
lemma At.follow {p : Place} {c : Conversation σ} (here : At p c) (npc : Npc)
    (graph : npc.graph = graph) {requests : List Navigation} (asks : p.Asks requests) :
    ∃ q c', c.consumed.follow npc requests .stalled = (.ok (.presenting q.key), c') ∧ At q c' ∧
      (q = .win → requests = [.jump Place.win.key]) := by
  cases asks with
  | jump q waits stays =>
    have left : c.consumed.frontier.keys.erase q.key = [q.waiting] := by
      show c.frontier.keys.erase q.key = _
      rw [here.frontier, waits, stays]
      refine List.erase_of_not_mem fun mem => ?_
      rw [List.mem_singleton, ← stays] at mem
      exact q.key_ne_waiting mem
    obtain ⟨c', visited, there⟩ :=
      visit_at q (c := c.consumed) graph here.collections c.consumed_open left
    refine ⟨q, c', ?_, there, ?_⟩
    · rw [Conversation.follow, visited]
      rfl
    · rintro rfl
      rfl
  | back key returns =>
    -- the restarted key joins the one that waits, as at the start
    have both : ([p.waiting] ++ [key] = [.entry, weatherKey]) ∨
        ([p.waiting] ++ [key] = [weatherKey, .entry]) := by
      obtain ⟨waits, rfl⟩ | ⟨waits, rfl⟩ := returns
      · exact .inr (by rw [waits]; rfl)
      · exact .inl (by rw [waits]; rfl)
    rw [← here.frontier] at both
    obtain ⟨q, c', visited, there, lost⟩ :=
      visitDrawn_at (c := { c.consumed with frontier := c.consumed.frontier.push key }) graph
        here.collections c.consumed_open both
    refine ⟨q, c', ?_, there, fun won => absurd won lost⟩
    dsimp only at visited
    simp only [Conversation.follow, visited]

/-- What a selection at a place makes of the state, and to which place it can lead. -/
inductive Reaction (p : Place) (state : State) : Selection → State → Place → Prop where
  | choice {handle q} :
    q ≠ .win →
    Reaction p state (.choice handle) state q
  | present {handle item q} :
    p = .welcome →
    (q = .win → item = ⟨"pants"⟩) →
    Reaction p state (.present handle item) (state.increment "presented" 1) q

/-- Whatever the page of a place offers leads to a place. -/
lemma At.select {p : Place} {c : Conversation σ} {npc : Npc} (here : At p c)
    (graph : npc.graph = graph) {pick s}
    (offered : (Surface.page c.surface).selectionFor pick = some s) :
    ∃ q state c' action, c.accept s = .ok action ∧
      c.select npc s = (.ok (.presenting q.key), c', { npc with state }) ∧
      Reaction p npc.state s state q ∧ At q c' := by
  cases pick with
  | choice i =>
    obtain ⟨choice, listed, _, runs⟩ := here.faithful.choice offered
    obtain ⟨kept, asks, lost⟩ := Place.choice_asks (List.mem_of_getElem? listed) npc.state
    obtain ⟨q, c', followed, there, won⟩ := here.follow (npc.acted choice.action) graph asks
    obtain ⟨_, handle, _, rfl⟩ := Page.selectionFor_choice_iff.1 offered
    refine ⟨q, npc.state, c', choice.action, runs.accepted, ?_,
      .choice fun e => lost (won e), there⟩
    rw [runs.selected, followed, Npc.acted, kept]
  | present j =>
    obtain ⟨presentation, _, item, presents, _, _, listed, runs⟩ := here.faithful.present offered
    obtain ⟨first, raised, asks, pants⟩ := Place.presentation_asks presents item npc.state
    obtain ⟨q, c', followed, there, won⟩ :=
      here.follow (npc.acted (presentation.action item)) graph asks
    obtain ⟨handle, item', listed', rfl⟩ := Page.getElem?_items_of_offered offered
    obtain rfl := Option.some.inj (listed.symm.trans listed')
    refine ⟨q, npc.state.increment "presented" 1, c', presentation.action item, runs.accepted, ?_,
      .present first fun e => pants (won e), there⟩
    rw [runs.selected, followed, Npc.acted, raised]

omit [LawfulSurface σ] in
/-- Only the win is without options. -/
lemma At.options {p : Place} {c : Conversation σ} (here : At p c) :
    (p = .win ∧ Surface.page c.surface = lastPage) ∨
      (p ≠ .win ∧ ∃ pick s, (Surface.page c.surface).selectionFor pick = some s) := by
  by_cases won : p = .win
  · exact .inl ⟨won, here.won won⟩
  · have labelled : (Surface.page c.surface).labels ≠ [] := by
      rw [here.faithful.labels]
      cases p with
      | win => exact absurd rfl won
      | _ => exact nofun
    obtain ⟨entry, rest, listed⟩ := List.exists_cons_of_ne_nil
      (mt (congrArg (List.map Prod.fst)) labelled)
    refine .inr ⟨won, .choice 0, .choice entry.2, ?_⟩
    rw [Page.selectionFor, listed]
    rfl

omit [LawfulSurface σ] in
/-- A conversation stays at its place while its surface keeps the page. -/
lemma At.onSurface {p : Place} {c : Conversation σ} (here : At p c) {surface : σ}
    (same : Surface.page surface = Surface.page c.surface) : At p { c with surface } where
  collections := here.collections
  presenting := here.presenting
  current := here.current
  frontier := here.frontier
  faithful := by
    rw [same]
    exact here.faithful.congr rfl rfl
  won e := by
    rw [same]
    exact here.won e

/-- At a place, an event has nothing selected, or what it has selected leads to a place. -/
lemma At.event {p : Place} {c : Conversation σ} {npc : Npc} (here : At p c)
    (graph : npc.graph = graph) (event : InputEvent) :
    ((Surface.respond c.surface event).1 = none ∧ At p (c.heard event) ∧
      c.handleEvent npc event = (.ok none, c.heard event, npc)) ∨
    ∃ s q state c' action, (Surface.respond c.surface event).1 = some s ∧
      c.accept s = .ok action ∧
      c.handleEvent npc event = (.ok (some (.presenting q.key)), c', { npc with state }) ∧
      Reaction p npc.state s state q ∧ At q c' := by
  have stays : At p (c.heard event) := here.onSurface (LawfulSurface.page_respond c.surface event)
  cases reported : (Surface.respond c.surface event).1 with
  | none => exact .inl ⟨rfl, stays, Conversation.handleEvent_silent reported npc⟩
  | some s =>
    obtain ⟨pick, offered⟩ := LawfulSurface.respond_offered reported
    rw [← LawfulSurface.page_respond c.surface event] at offered
    obtain ⟨q, state, c', action, accepted, selected, reaction, there⟩ := stays.select graph offered
    refine .inr ⟨s, q, state, c', action, rfl, accepted, ?_, reaction, there⟩
    rw [Conversation.handleEvent_reported reported, selected]
    rfl

/-- At a place, no event ends in an error or with a stall. -/
lemma At.event_outcome {p : Place} {c c' : Conversation σ} {npc npc' : Npc} (here : At p c)
    (graph : npc.graph = graph) {event : InputEvent} {outcome}
    (handled : c.handleEvent npc event = (outcome, c', npc')) :
    outcome = .ok none ∨ ∃ q : Place, outcome = .ok (some (.presenting q.key)) ∧ At q c' ∧
      npc'.graph = Builtin.graph := by
  obtain ⟨_, _, silent⟩ | ⟨_, q, _, _, _, _, _, moved, _, there⟩ := here.event graph event
  · rw [silent] at handled
    cases handled
    exact .inl rfl
  · rw [moved] at handled
    cases handled
    exact .inr ⟨q, rfl, there, graph⟩

/-- A session with the entry keys starts at a place. -/
lemma start_at {c : Conversation σ} {npc : Npc} (graph : npc.graph = graph)
    (collections : c.collections = Scenario.builtin.collections) :
    ∃ p c', (c.startSession Scenario.builtin.entryKeys).visitRandom npc = (.ok (), c') ∧
      At p c' ∧ p ≠ .win := by
  have live := c.startSession_open Scenario.builtin.entryKeys
  obtain ⟨p, c', visited, there, lost⟩ :=
    visitDrawn_at (c := c.startSession Scenario.builtin.entryKeys) graph collections live
      (.inl rfl)
  refine ⟨p, c', ?_, there, lost⟩
  rw [Conversation.visitRandom, if_neg live, visited]

end Conversations

/-! ## Playthroughs -/

section Playthroughs

variable {π : Type} [Policy π]

/-- The ways in which the course of a playthrough can end. -/
inductive Ends (pages : List Page) : Except DialogueError PlayOutcome → Prop where
  | deadEnd :
    pages.getLast? = some lastPage →
    Ends pages (.ok .deadEnd)
  | policyIdle :
    Ends pages (.ok .policyIdle)
  | turnLimit :
    Ends pages (.ok .turnLimit)

/-- How a walk ends depends on its last page alone. -/
lemma Ends.cons {pages : List Page} {result} (ends : Ends pages result) (page : Page) :
    Ends (page :: pages) result := by
  cases ends with
  | deadEnd last =>
    refine .deadEnd ?_
    rw [List.getLast?_cons_of_ne_nil, last]
    rintro rfl
    cases last
  | policyIdle => exact .policyIdle
  | turnLimit => exact .turnLimit

/-- From a place on, a course ends in one of the ways of `Ends`. -/
lemma course_ends {remaining c npc pages picks result}
    (course : Playthrough.Course (π := π) remaining c npc pages picks result) {p : Place}
    (here : At p c) (graph : npc.graph = graph) : Ends pages result := by
  induction course generalizing p with
  | limit => exact .turnLimit
  | @declined _ c _ _ =>
    obtain ⟨_, last⟩ | ⟨_, _, _, offered⟩ := here.options
    · change c.surface.page = _ at last
      rw [last]
      exact .deadEnd rfl
    · have offering : c.surface.page.isStalled = false := Page.not_isStalled offered
      rw [offering]
      exact .policyIdle
  | stalled _ handled =>
    obtain impossible | ⟨_, impossible, _⟩ := here.event_outcome graph handled <;> cases impossible
  | exhausted _ handled =>
    obtain impossible | ⟨_, impossible, _⟩ := here.event_outcome graph handled <;> cases impossible
  | failed _ handled _ _ =>
    obtain impossible | ⟨_, impossible, _⟩ := here.event_outcome graph handled <;> cases impossible
  | moved _ handled _ ih =>
    obtain impossible | ⟨_, _, there, same⟩ := here.event_outcome graph handled
    · cases impossible
    · exact (ih (there.onSurface rfl) same).cons _

/-- A playthrough with the noblewoman never breaks off: it ends at the win, or when the policy
declines, or at the limit. -/
lemma play_ends {npc : Npc} (graph : npc.graph = graph) (policy : π) (source : Random.Source)
    (maxTurns : Nat) :
    ∃ p, (Playthrough.play npc Scenario.builtin.collections Scenario.builtin.entryKeys policy source
        maxTurns).1 = .ok p ∧
      (p.outcome = .deadEnd ∧ p.transcript.getLast? = some "you win" ∨
        p.outcome = .policyIdle ∨ p.outcome = .turnLimit) := by
  obtain ⟨place, first, visited, there, _⟩ := start_at graph rfl
    (c := .create (Automated.blank policy) Scenario.builtin.collections source)
  obtain ⟨poised, untaken⟩ := Playthrough.opening_poised visited
  obtain ⟨pages, picks, result, course, reports⟩ :=
    Playthrough.turnsFrom_course maxTurns 0 poised untaken npc
  have ends := course_ends course there graph
  rw [Playthrough.play_started visited]
  generalize (Playthrough.turnsFrom maxTurns 0 first npc).1 = report at reports
  cases reports with
  | failed => cases ends
  | @ended outcome p reported written counted =>
    refine ⟨p, rfl, ?_⟩
    rw [reported]
    cases ends with
    | deadEnd last =>
      have count := (course.bounded rfl).picks_eq
      have unpicked : picks.length < pages.length := by
        rw [PlayOutcome.onPick] at count
        simp at count
        omega
      exact .inl ⟨rfl, written.getLast? unpicked last rfl⟩
    | policyIdle => exact .inr (.inl rfl)
    | turnLimit => exact .inr (.inr rfl)

end Playthroughs

end Parley.Builtin
