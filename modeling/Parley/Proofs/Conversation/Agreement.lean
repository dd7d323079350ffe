import Parley.Proofs.Conversation.Automated
import Parley.Proofs.Conversation.Lockstep
import Parley.Proofs.Conversation.Protocol
import Parley.Proofs.Surface.Gestures

/-!
# Agreement of surfaces

A terminal takes up to three gestures for a pick (`Pick.gestures`), an automated surface takes one
event and asks its policy. Between two picks they are `Level`: they show the same page and either
both take selections from it or neither does. A turn of each, for the same pick, has the same
outcome and leaves them level again (`Together.turn`), so conversations on the two surfaces agree on
whatever is seen at the end of their turns (`surfaces_agree`).
-/

namespace Parley

/-- An automated surface is spent by a pick that its page offers. -/
lemma Automated.respond_offered {π : Type} [Policy π] {a : Automated π} {pick : Pick}
    {s : Selection} (fresh : a.spent = false)
    (handed : (Policy.pick a.policy a.page).1 = some pick)
    (offered : a.page.selectionFor pick = some s) :
    a.respond.1 = some s ∧ a.respond.2.page = a.page ∧ a.respond.2.spent = true := by
  have answer := Automated.respond_inv fresh
  generalize a.respond = r at answer
  cases answer with
  | declined picked nothing =>
    rw [picked] at handed
    cases handed
    exact absurd (offered.symm.trans nothing) nofun
  | selected picked offered' =>
    rw [picked] at handed
    cases handed
    exact ⟨offered'.symm.trans offered, rfl, rfl⟩

namespace Conversation

/-! ## Turns -/

section

variable {σ : Type}

/-- The outcome of an event, if it got a selection followed or refused. -/
def outcome? : Except DialogueError (Option Transition) → Option (Except DialogueError Transition)
  | .ok none => none
  | .ok (some outcome) => some (.ok outcome)
  | .error e => some (.error e)

/-- A selection has an outcome, whether it got followed or refused. -/
lemma outcome?_map_some (result : Except DialogueError Transition) :
    outcome? (result.map some) = some result := by
  cases result <;> rfl

variable [Surface σ]

/-- Hands over events in turn, and lists the outcomes of the selections among them. -/
def feed (c : Conversation σ) (npc : Npc) :
    List InputEvent → List (Except DialogueError Transition) × Conversation σ × Npc
  | [] => ([], c, npc)
  | event :: rest =>
    let (result, c, npc) := c.handleEvent npc event
    let (outcomes, after) := feed c npc rest
    ((outcome? result).toList ++ outcomes, after)

/-- What is seen at the end of a turn: its outcomes, the conversation and the character. -/
structure Moment where
  outcomes : List (Except DialogueError Transition)
  view : View
  npc : Npc

/-- What is seen of one turn after another; a turn hands over the events for a pick. -/
def turns (events : Pick → List InputEvent) (c : Conversation σ) (npc : Npc) :
    List Pick → List Moment
  | [] => []
  | pick :: rest =>
    let (outcomes, c, npc) := c.feed npc (events pick)
    ⟨outcomes, c.view, npc⟩ :: turns events c npc rest

/-- Each pick has the property `P` of the conversation when its turn comes, as long as a node is
presented then. -/
def AtTurns (events : Pick → List InputEvent) (P : Conversation σ → Pick → Prop)
    (c : Conversation σ) (npc : Npc) : List Pick → Prop
  | [] => True
  | pick :: rest => c.phase = .presenting →
    P c pick ∧
      AtTurns events P (c.feed npc (events pick)).2.1 (c.feed npc (events pick)).2.2 rest

/-- Opens a session with a visit, to a random key if none is given. -/
def opened (c : Conversation σ) (npc : Npc) :
    Option Key → Except DialogueError Unit × Conversation σ
  | some key => c.visit npc key
  | none => c.visitRandom npc

variable {c : Conversation σ}

/-- An event that gets nothing reported only changes the surface. -/
lemma feed_silent {event : InputEvent} {s : σ}
    (silent : Surface.respond c.surface event = (none, s)) (npc : Npc) (rest : List InputEvent) :
    c.feed npc (event :: rest) = { c with surface := s }.feed npc rest := by
  rw [feed, handleEvent, silent]
  rfl

/-- An event that gets a selection reported has its outcome. -/
lemma feed_reported {event : InputEvent} {selection : Selection} {s : σ}
    (reported : Surface.respond c.surface event = (some selection, s)) (npc : Npc) :
    c.feed npc [event] = ([({ c with surface := s }.select npc selection).1],
      ({ c with surface := s }.select npc selection).2) := by
  rw [feed, handleEvent, reported]
  dsimp only [feed]
  rw [outcome?_map_some]
  rfl

/-- What every event preserves holds after any number of them. -/
lemma feed_preserves {P : Conversation σ → Prop}
    (step : ∀ c npc event, P c → P (c.handleEvent npc event).2.1) (first : P c) (npc : Npc)
    (events : List InputEvent) : P (c.feed npc events).2.1 := by
  induction events generalizing c npc with
  | nil => exact first
  | cons event rest ih => exact ih (step c npc event first) _

/-- Events lead to reachable conversations. -/
lemma Reachable.feed (reachable : c.Reachable) (npc : Npc) (events : List InputEvent) :
    (c.feed npc events).2.1.Reachable :=
  feed_preserves (fun _ npc event reachable => reachable.apply (.ask npc (.handleEvent event)))
    reachable npc events

/-- Events do not leave a guarded conversation unguarded. -/
lemma Guarded.feed [OneShotSurface σ] (guarded : c.Guarded) (npc : Npc)
    (events : List InputEvent) : (c.feed npc events).2.1.Guarded := by
  refine feed_preserves (P := Guarded) ?_ guarded npc events
  intro c npc event guarded
  have indirect : (Call.handleEvent event).Indirect := trivial
  exact perform_guarded guarded indirect npc

/-- While the surface has nothing to report, events change nothing that can be seen. -/
lemma feed_mute [LawfulSurface σ] (mute : Surface.Mute c.surface) (npc : Npc)
    (events : List InputEvent) : ∃ c', Surface.Mute c'.surface ∧ c'.view = c.view ∧
      c.feed npc events = ([], c', npc) := by
  induction events generalizing c with
  | nil => exact ⟨c, mute, rfl, rfl⟩
  | cons event rest ih =>
    have same : (c.heard event).view = c.view := by
      have page := LawfulSurface.page_respond c.surface event
      exact congrArg (View.mk c.phase c.currentKey c.frontier) page
    have silent : Surface.respond c.surface event = (none, (c.heard event).surface) :=
      Prod.ext (mute.silent event) rfl
    obtain ⟨c', mute', view, e⟩ := ih (c := c.heard event) (mute.respond event)
    rw [feed_silent silent]
    exact ⟨c', mute', view.trans same, e⟩

/-- While the surface has nothing to report, every turn looks the same. -/
lemma turns_mute [LawfulSurface σ] (events : Pick → List InputEvent)
    (mute : Surface.Mute c.surface) (npc : Npc) (picks : List Pick) :
    c.turns events npc picks = picks.map fun _ => ⟨[], c.view, npc⟩ := by
  induction picks generalizing c with
  | nil => rfl
  | cons pick rest ih =>
    obtain ⟨c', mute', view, e⟩ := feed_mute mute npc (events pick)
    rw [turns, e]
    dsimp only
    rw [ih mute', view]
    rfl

end

/-- The page offers every pick when its turn at the terminal comes. -/
def Offered (c : Conversation Terminal) (npc : Npc) (picks : List Pick) : Prop :=
  c.AtTurns Pick.gestures (fun c pick => (c.surface.page.selectionFor pick).isSome) npc picks

/-- The policy picks from the page as listed, one pick at each event. -/
def HandsOut {π : Type} [Policy π] (c : Conversation (Automated π)) (npc : Npc)
    (picks : List Pick) : Prop :=
  c.AtTurns (fun _ => [.tick])
    (fun c pick => (Policy.pick c.surface.policy c.surface.page).1 = some pick) npc picks

/-- The gestures of a pick that the page offers make that selection, and spend the terminal. -/
lemma feed_gestures {c : Conversation Terminal} {pick : Pick} {s : Selection}
    (choosing : c.surface.mode = .choosing) (offered : c.surface.page.selectionFor pick = some s)
    (npc : Npc) : ∃ t : Terminal, t.page = c.surface.page ∧ t.mode = .spent ∧
      c.feed npc pick.gestures =
        ([({ c with surface := t }.select npc s).1], ({ c with surface := t }.select npc s).2) := by
  cases pick with
  | choice index =>
    have reported := Terminal.respond_choice choosing offered
    exact ⟨{ c.surface with mode := .spent }, rfl, rfl, feed_reported reported npc⟩
  | present index =>
    -- the three gestures lead from choosing over picking to confirming, on the same page
    obtain ⟨opens, listed⟩ := Page.listed_of_offered offered
    have opened := Terminal.respond_open choosing opens
    have picked := Terminal.respond_pick (t := c.surface.goto .picking) rfl listed
    have reported := Terminal.respond_confirm
      (t := (c.surface.goto .picking).goto (.confirming index)) rfl offered
    refine ⟨{ c.surface with mode := .spent, dirty := true }, rfl, rfl, ?_⟩
    rw [Pick.gestures, feed_silent opened, feed_silent picked]
    exact feed_reported reported npc

variable {π : Type} [Policy π]

/-- An event lets the policy make a selection that the page offers, and spends the surface. -/
lemma feed_tick {d : Conversation (Automated π)} {pick : Pick} {s : Selection}
    (fresh : d.surface.spent = false)
    (handed : (Policy.pick d.surface.policy d.surface.page).1 = some pick)
    (offered : d.surface.page.selectionFor pick = some s) (npc : Npc) :
    ∃ a : Automated π, a.page = d.surface.page ∧ a.spent = true ∧
      d.feed npc [.tick] =
        ([({ d with surface := a }.select npc s).1], ({ d with surface := a }.select npc s).2) := by
  obtain ⟨reported, page, spent⟩ := Automated.respond_offered fresh handed offered
  have answered : Surface.respond d.surface .tick = (some s, d.surface.respond.2) :=
    Prod.ext reported rfl
  exact ⟨d.surface.respond.2, page, spent, feed_reported answered npc⟩

/-! ## Level surfaces -/

/-- The two surfaces show the same page, and either both of them take selections or neither does. -/
structure Level (t : Terminal) (a : Automated π) : Prop where
  page : t.page = a.page
  input : t.mode = .choosing ∧ a.spent = false ∨ t.mode = .spent ∧ a.spent = true

/-- Surfaces that are shown the same episode are level. -/
lemma shownAlike_level : ShownAlike (Level (π := π)) 0 := by
  intro t a id text choices items
  have page := page_display t id text choices items
  have page' := page_display a id text choices items
  exact ⟨page.trans page'.symm,
    .inl ⟨mode_display t id text choices items, (display_automated a id text choices items).1⟩⟩

/-- Conversations in step on level surfaces look the same. -/
lemma InStep.view_level {c : Conversation Terminal} {d : Conversation (Automated π)}
    (st : InStep Level 0 c d) : c.view = d.view := by
  have page : Surface.page c.surface = Surface.page d.surface := st.surfaces.page
  rw [Conversation.view, Conversation.view, st.phase, st.currentKey, st.frontier, page]

/-- A node that is presented on a terminal can be chosen from. -/
def Choosing (c : Conversation Terminal) : Prop :=
  c.phase = .presenting → c.surface.mode = .choosing

/-- A terminal that is shown a node waits for a choice, and keys do not change that. -/
lemma choosing_persistent : Persistent Choosing where
  draws _ _ choosing := choosing
  pushes _ _ choosing := choosing
  shows _ _ _ _ _ _ := fun _ => mode_display _ _ _ _ _

/-- Conversations on level surfaces, in which no page was left up. -/
structure Together (c : Conversation Terminal) (d : Conversation (Automated π)) : Prop where
  inStep : InStep Level 0 c d
  choosing : c.Choosing
  guarded : c.Guarded
  guarded' : d.Guarded
  reachable : d.Reachable

/-- A turn ends alike in two conversations, and leaves them together. -/
structure SameTurn {ρ : Type} (r : ρ × Conversation Terminal × Npc)
    (r' : ρ × Conversation (Automated π) × Npc) : Prop where
  result : r.1 = r'.1
  together : Together r.2.1 r'.2.1
  npc : r.2.2 = r'.2.2

namespace Together

variable {c : Conversation Terminal} {d : Conversation (Automated π)}

/-- The gestures of a pick and the event that lets the policy make it come to the same. -/
lemma turn (tog : Together c d) (presenting : c.phase = .presenting) {pick : Pick}
    (offered : (c.surface.page.selectionFor pick).isSome)
    (handed : (Policy.pick d.surface.policy d.surface.page).1 = some pick) (npc : Npc) :
    SameTurn (c.feed npc pick.gestures) (d.feed npc [.tick]) := by
  obtain ⟨s, offered⟩ := Option.isSome_iff_exists.1 offered
  have choosing := tog.choosing presenting
  have fresh : d.surface.spent = false := by
    obtain ⟨_, fresh⟩ | ⟨spent, _⟩ := tog.inStep.surfaces.input
    · exact fresh
    · rw [choosing] at spent
      cases spent
  have offered' : d.surface.page.selectionFor pick = some s := by
    rw [← tog.inStep.surfaces.page]
    exact offered
  have guarded := tog.guarded.feed npc pick.gestures
  have guarded' := tog.guarded'.feed npc [.tick]
  have reachable := tog.reachable.feed npc [.tick]
  obtain ⟨t, page, spent, fed⟩ := feed_gestures choosing offered npc
  obtain ⟨a, page', spent', fed'⟩ := feed_tick fresh handed offered' npc
  rw [fed] at guarded ⊢
  rw [fed'] at guarded' reachable ⊢
  have level : Level t a := ⟨by rw [page, page', tog.inStep.surfaces.page], .inr ⟨spent, spent'⟩⟩
  have st : InStep Level 0 { c with surface := t } { d with surface := a } :=
    { tog.inStep with surfaces := level }
  -- the selection is one of the page, so the live episode accepts it on either surface
  have presenting' : d.phase = .presenting := by rw [← tog.inStep.phase, presenting]
  obtain ⟨action, accepted'⟩ := tog.reachable.accepts presenting' offered' a
  have accepted := st.accept accepted'
  rw [Selection.shift_zero] at accepted
  obtain ⟨result, after, npc_eq⟩ := st.select shownAlike_level accepted accepted' npc
  have choosing' : ({ c with surface := t }.select npc s).2.1.Choosing := by
    rw [select_accepted accepted]
    exact (follow_inv _ _ _ _).persists choosing_persistent nofun
  exact ⟨congrArg (fun r => [r]) result, ⟨after, choosing', guarded, guarded', reachable⟩, npc_eq⟩

/-- A session opens alike in conversations that are together, whichever key it begins with. -/
lemma opened (tog : Together c d) (npc : Npc) (first : Option Key) :
    (c.opened npc first).1 = (d.opened npc first).1 ∧
      Together (c.opened npc first).2 (d.opened npc first).2 := by
  cases first with
  | none =>
    obtain ⟨result, st⟩ := tog.inStep.visitRandom shownAlike_level npc
    exact ⟨result, st, visitRandom_persists choosing_persistent tog.choosing npc,
      visitRandom_persists guarded_persistent tog.guarded npc,
      visitRandom_persists guarded_persistent tog.guarded' npc,
      tog.reachable.apply (.ask npc .visitRandom)⟩
  | some key =>
    obtain ⟨result, st⟩ := tog.inStep.visit shownAlike_level npc key
    exact ⟨result, st, (c.visit_inv npc key).persists choosing_persistent tog.choosing,
      (c.visit_inv npc key).persists guarded_persistent tog.guarded,
      (d.visit_inv npc key).persists guarded_persistent tog.guarded',
      tog.reachable.apply (.ask npc (.visit key))⟩

/-- Conversations that are together show the same at the end of all turns. -/
lemma turns (tog : Together c d) {npc : Npc} {picks : List Pick} (offered : c.Offered npc picks)
    (handed : d.HandsOut npc picks) :
    c.turns Pick.gestures npc picks = d.turns (fun _ => [.tick]) npc picks := by
  induction picks generalizing c d npc with
  | nil => rfl
  | cons pick rest ih =>
    by_cases presenting : c.phase = .presenting
    · have presenting' : d.phase = .presenting := by rw [← tog.inStep.phase, presenting]
      obtain ⟨offered, later⟩ := offered presenting
      obtain ⟨handed, later'⟩ := handed presenting'
      have same := tog.turn presenting offered handed npc
      rw [Conversation.turns, Conversation.turns]
      generalize c.feed npc pick.gestures = r, d.feed npc [.tick] = r' at same later later'
      obtain ⟨outcomes, c', npc'⟩ := r
      obtain ⟨outcomes', d', npc''⟩ := r'
      obtain ⟨rfl, after, rfl⟩ := same
      dsimp only
      rw [ih after later later', after.inStep.view_level]
    · -- nothing is presented any more, and neither surface has anything left to report
      have presenting' : d.phase ≠ .presenting := by rwa [← tog.inStep.phase]
      obtain ⟨marks, num⟩ := tog.reachable.numbered
      have unshown' := num.unshown presenting'
      have unshown : c.episode = none := by
        rw [tog.inStep.episode, unshown']
        rfl
      rw [turns_mute _ (tog.guarded unshown), turns_mute _ (tog.guarded' unshown'),
        tog.inStep.view_level]

end Together

/-! ## Policies that list their picks -/

/-- The policy still has these answers, and is asked when the next node waits for a selection. -/
structure Loaded (answers : List (Option Pick)) (d : Conversation (Automated FixedPolicy)) :
    Prop where
  fresh : d.phase = .presenting → d.surface.spent = false
  policy : d.surface.policy = ⟨answers⟩

/-- Neither a draw, a restart nor a node that is shown takes an answer from the policy. -/
lemma loaded_persistent (answers : List (Option Pick)) : Persistent (Loaded answers) where
  draws _ _ loaded := ⟨loaded.fresh, loaded.policy⟩
  pushes _ _ loaded := ⟨loaded.fresh, loaded.policy⟩
  shows _ _ _ _ _ loaded :=
    ⟨fun _ => (display_automated _ _ _ _ _).1,
      (display_automated _ _ _ _ _).2.1.trans loaded.policy⟩

/-- Asked for an answer, the policy has the others left. -/
lemma Loaded.tick {d : Conversation (Automated FixedPolicy)} {answer : Option Pick}
    {answers : List (Option Pick)} (loaded : d.Loaded (answer :: answers))
    (reachable : d.Reachable) (presenting : d.phase = .presenting) (npc : Npc) :
    (d.feed npc [.tick]).2.1.Loaded answers := by
  have asked : Policy.pick d.surface.policy d.surface.page = (answer, ⟨answers⟩) := by
    rw [loaded.policy]
    rfl
  -- the answer is used up whether or not the page offers it
  have given := Automated.respond_inv (loaded.fresh presenting)
  generalize answered : d.surface.respond = r at given
  cases given with
  | declined picked _ =>
    rw [asked] at picked
    cases picked
    rw [feed_silent answered]
    exact ⟨loaded.fresh, rfl⟩
  | @selected pick policy s picked offered =>
    rw [asked] at picked
    cases picked
    rw [feed_reported answered]
    obtain ⟨action, accepted⟩ := reachable.accepts presenting offered
      { d.surface with policy := ⟨answers⟩, spent := true, lastPick := some pick }
    dsimp only
    rw [select_accepted accepted]
    exact (follow_inv _ _ _ _).persists (loaded_persistent answers) ⟨nofun, rfl⟩

/-- A policy that lists picks hands them out. -/
lemma Loaded.handsOut {d : Conversation (Automated FixedPolicy)} {picks : List Pick}
    (loaded : d.Loaded (picks.map some)) (reachable : d.Reachable) (npc : Npc) :
    d.HandsOut npc picks := by
  induction picks generalizing d npc with
  | nil => exact trivial
  | cons pick rest ih =>
    intro presenting
    refine ⟨?_, ih (loaded.tick reachable presenting npc) (reachable.feed npc [.tick]) _⟩
    show (Policy.pick d.surface.policy d.surface.page).1 = some pick
    rw [loaded.policy]
    rfl

/-! ## Sessions on both surfaces -/

/-- New sessions on a terminal and on an automated surface are together. -/
lemma together_create (collections : Collections) (source : Random.Source)
    (entryKeys : List Key) (policy : π) :
    Together ((create Terminal.blank collections source).startSession entryKeys)
      ((create (Automated.blank policy) collections source).startSession entryKeys) where
  inStep := ⟨⟨rfl, .inl ⟨rfl, rfl⟩⟩, rfl, rfl, rfl, rfl, rfl, rfl⟩
  choosing := nofun
  guarded _ := Surface.mute_of_empty rfl
  guarded' _ := Surface.mute_of_empty rfl
  reachable := ⟨_, collections, source, [.startSession entryKeys], rfl⟩

/-- A session at a terminal and the same session on an automated surface open alike. As long as the
page at the terminal offers the picks when their turn comes and the policy hands them out, both
sessions show the same at the end of each turn: outcomes, phase, key, frontier, page and the state
of the character. -/
theorem surfaces_agree (policy : π) (collections : Collections) (source : Random.Source) (npc : Npc)
    (entryKeys : List Key) (first : Option Key) (picks : List Pick) :
    let t := ((create Terminal.blank collections source).startSession entryKeys).opened npc first
    let a := ((create (Automated.blank policy) collections source).startSession entryKeys).opened
      npc first
    t.1 = a.1 ∧ t.2.view = a.2.view ∧
      (t.2.Offered npc picks → a.2.HandsOut npc picks →
        t.2.turns Pick.gestures npc picks = a.2.turns (fun _ => [.tick]) npc picks) := by
  intro t a
  obtain ⟨result, tog⟩ := (together_create collections source entryKeys policy).opened npc first
  exact ⟨result, tog.inStep.view_level, tog.turns⟩

/-- A policy that lists the picks hands them out, so a walk over the hill and a gift in the dale
look the same on both surfaces. -/
theorem surfaces_agree_gift :
    let hill : Key := ⟨"hill"⟩
    let dale : Key := ⟨"dale"⟩
    let guide : Npc := ⟨"guide", .empty, Graph.empty
      |>.insert hill ((Node.fixed "Uphill.").withOffer fun _ =>
        ChoiceSet.empty.withChoice "On" fun state => (state, [.jump dale]))
      |>.insert dale ((Node.fixed "Downhill.").withOffer fun _ =>
        ChoiceSet.empty.withPresentation "gifts" fun _ state => (state, [.jump hill]))⟩
    let gifts := Collections.empty.register "gifts" [⟨"apple"⟩, ⟨"pear"⟩]
    let picks := [.choice 0, .present 1]
    let t := ((create Terminal.blank gifts (.ofSeed 0)).startSession [hill]).opened guide
      (some hill)
    let a := ((create (Automated.blank (FixedPolicy.mk (picks.map some))) gifts
      (.ofSeed 0)).startSession [hill]).opened guide (some hill)
    t.2.Offered guide picks ∧ a.2.HandsOut guide picks ∧
      (a.2.turns (fun _ => [.tick]) guide picks).map (·.outcomes) =
        [[.ok (.presenting dale)], [.ok (.presenting hill)]] ∧
      t.2.turns Pick.gestures guide picks = a.2.turns (fun _ => [.tick]) guide picks := by
  intro hill dale guide gifts picks t a
  have offered : t.2.Offered guide picks := fun _ => ⟨by decide, fun _ => ⟨by decide, trivial⟩⟩
  have loaded : a.2.Loaded (picks.map some) :=
    (visit_inv _ guide hill).persists (loaded_persistent _) ⟨nofun, rfl⟩
  have reachable : a.2.Reachable :=
    ⟨_, gifts, .ofSeed 0, [.startSession [hill], .ask guide (.visit hill)], rfl⟩
  have handed := loaded.handsOut reachable guide
  obtain ⟨_, _, agree⟩ := surfaces_agree (FixedPolicy.mk (picks.map some)) gifts (.ofSeed 0) guide
    [hill] (some hill) picks
  exact ⟨offered, handed, by decide, agree offered handed⟩

end Conversation

end Parley
