import Parley.Proofs.Conversation.History
import Parley.Surface.Recorder

/-!
# Accounts of the frontier

What becomes of the frontier over a session. Of all marks only restarts and visits matter:
`Mark.replay` is what a mark does to the keys, and `Accounts` are the sums that follow for a history
of marks. They hold of every mark within a session and add up over a trace (`Trace.accounts`);
`session_accounts` states them for every list of calls since the start of a session. A graph that
never restarts (`NeverRestarts`) can only use up the keys that the session started with.
-/

namespace Parley

/-! ## Counting marks -/

/-- The key that was put into the frontier at the request of an action. -/
def Mark.restarted? : Mark → Option Key
  | .restarted key => some key
  | _ => none

/-- Whether a key was visited while it was in the frontier. -/
def Mark.uses (key : Key) : Mark → Bool
  | .shown _ visited listed _ => visited == key && listed
  | _ => false

/-- Whether some key was visited while it was in the frontier. -/
def Mark.usesSome : Mark → Bool
  | .shown _ _ listed _ => listed
  | _ => false

/-- Whether a key was drawn and visited. -/
def Mark.draws : Mark → Bool
  | .shown _ _ _ drawn => drawn
  | _ => false

/-- What a mark does to the keys of the frontier. -/
def Mark.replay (keys : List Key) : Mark → List Key
  | .started entryKeys => entryKeys
  | .restarted key => keys ++ [key]
  | .shown _ key _ _ => keys.erase key
  | _ => keys

/-- The keys that were put into the frontier at the request of actions, in order. -/
def restartedKeys (marks : List Mark) : List Key := marks.filterMap Mark.restarted?

/-- Histories restart the keys of their parts. -/
lemma restartedKeys_append (marks1 marks2 : List Mark) :
    restartedKeys (marks1 ++ marks2) = restartedKeys marks1 ++ restartedKeys marks2 :=
  List.filterMap_append

/-- A key is restarted as often as it was marked to be. -/
lemma count_restartedKeys (marks : List Mark) (key : Key) :
    (restartedKeys marks).count key = marks.count (.restarted key) := by
  induction marks with
  | nil => rfl
  | cons mark rest ih =>
    cases mark with
    | restarted other =>
      show (other :: restartedKeys rest).count key = _
      rw [List.count_cons, List.count_cons, ih]
      by_cases e : other = key <;> simp [e]
    | _ =>
      rw [List.count_cons, if_neg (by simp)]
      exact ih

/-! ## Accounts -/

/-- The keys of a frontier that started with `entryKeys`, as the marks account for them. -/
structure Accounts (entryKeys : List Key) (marks : List Mark) (keys : List Key) : Prop where
  replay : keys = marks.foldl Mark.replay entryKeys
  count : ∀ key, keys.count key + marks.countP (Mark.uses key) =
    entryKeys.count key + (restartedKeys marks).count key
  size : keys.length + marks.countP Mark.usesSome =
    entryKeys.length + (restartedKeys marks).length
  order : keys.Sublist (entryKeys ++ restartedKeys marks)
  drawn : marks.countP Mark.draws ≤ marks.countP Mark.usesSome

namespace Accounts

variable {entryKeys keys keys' : List Key} {marks marks' : List Mark}

/-- Without marks the frontier is what it was. -/
lemma refl (keys : List Key) : Accounts keys [] keys :=
  ⟨rfl, fun _ => rfl, rfl, by simp [restartedKeys], Nat.le_refl _⟩

/-- Accounts can be continued from where they ended. -/
lemma append (acc : Accounts entryKeys marks keys) (acc' : Accounts keys marks' keys') :
    Accounts entryKeys (marks ++ marks') keys' where
  replay := by
    rw [List.foldl_append, ← acc.replay]
    exact acc'.replay
  count key := by
    have earlier := acc.count key
    have later := acc'.count key
    rw [restartedKeys_append, List.countP_append, List.count_append]
    omega
  size := by
    have earlier := acc.size
    have later := acc'.size
    rw [restartedKeys_append, List.countP_append, List.length_append]
    omega
  order := by
    rw [restartedKeys_append, ← List.append_assoc]
    exact acc'.order.trans (acc.order.append (List.Sublist.refl _))
  drawn := by
    rw [List.countP_append, List.countP_append]
    exact Nat.add_le_add acc.drawn acc'.drawn

/-- A mark that tells of no restart and takes no key out leaves the accounts balanced. -/
lemma idle {mark : Mark} (kept : mark.replay keys = keys) (unrestarted : mark.restarted? = none)
    (unused : mark.usesSome = false) (undrawn : mark.draws = false) :
    Accounts keys [mark] keys where
  replay := kept.symm
  count key := by
    have unused_key : mark.uses key = false := by
      cases mark with
      | shown id visited listed drawn =>
        cases unused
        exact Bool.and_false _
      | _ => rfl
    simp [restartedKeys, unrestarted, unused_key]
  size := by simp [restartedKeys, unrestarted, unused]
  order := by simp [restartedKeys, unrestarted]
  drawn := by simp [undrawn]

/-- A restart adds its key at the end. -/
lemma restart (keys : List Key) (key : Key) :
    Accounts keys [.restarted key] (keys ++ [key]) where
  replay := rfl
  count other := by
    rw [List.count_append]
    rfl
  size := by
    rw [List.length_append]
    rfl
  order := List.Sublist.refl _
  drawn := Nat.le_refl _

/-- A visit to a key of the frontier takes out its first occurrence. -/
lemma take (id : Nat) {key : Key} (drawn : Bool) (mem : key ∈ keys) :
    Accounts keys [.shown id key true drawn] (keys.erase key) where
  replay := rfl
  count other := by
    have present := List.count_pos_iff.2 mem
    by_cases e : key = other
    · subst e
      have used : Mark.uses key (.shown id key true drawn) = true := by simp [Mark.uses]
      rw [List.countP_singleton, used, List.count_erase_self]
      exact Nat.sub_add_cancel present
    · have unused : Mark.uses other (.shown id key true drawn) = false := by simp [Mark.uses, e]
      rw [List.countP_singleton, unused, List.count_erase_of_ne (Ne.symm e)]
      rfl
  size := by
    rw [List.length_erase_of_mem mem]
    exact Nat.sub_add_cancel (List.length_pos_of_mem mem)
  order := by
    rw [show restartedKeys [.shown id key true drawn] = [] from rfl, List.append_nil]
    exact List.erase_sublist
  drawn := by
    cases drawn with
    | true => exact Nat.le_refl 1
    | false => exact Nat.zero_le 1

/-- A visit takes its key out if it was there; a key that was drawn was there. -/
lemma visit (id : Nat) (key : Key) {drawn : Bool} (listed : drawn = true → key ∈ keys) :
    Accounts keys [.shown id key (keys.contains key) drawn] (keys.erase key) := by
  by_cases mem : key ∈ keys
  · rw [List.contains_iff_mem.2 mem]
    exact take id drawn mem
  · have unlisted : keys.contains key = false := by
      rw [← Bool.not_eq_true, List.contains_iff_mem]
      exact mem
    have undrawn : drawn = false := by
      rw [← Bool.not_eq_true]
      exact fun h => mem (listed h)
    have kept : keys.erase key = keys := List.erase_of_not_mem mem
    rw [unlisted, undrawn, kept]
    exact idle kept rfl rfl rfl

end Accounts

namespace Conversation

variable {σ : Type} [Surface σ]

/-- A step within a session leaves a frontier that its mark accounts for. -/
lemma Step.accounts {c c' : Conversation σ} {mark : Mark} (st : Step mark c c')
    (inSession : mark.InSession) : Accounts c.frontier.keys [mark] c'.frontier.keys := by
  cases st with
  -- a new session starts new accounts, so its mark is not one within a session
  | started entryKeys => exact inSession.elim
  | ended => exact inSession.elim
  | heard event => exact .idle rfl rfl rfl rfl
  | accepted _ => exact .idle rfl rfl rfl rfl
  | failed e source => exact .idle rfl rfl rfl rfl
  | restarted key => exact .restart _ key
  | shown _ _ listed _ _ => exact .visit _ _ listed

/-- So does every trace within a session. -/
lemma Trace.accounts {c c' : Conversation σ} {marks : List Mark} (tr : Trace marks c c')
    (inSession : ∀ mark ∈ marks, mark.InSession) :
    Accounts c.frontier.keys marks c'.frontier.keys := by
  induction tr with
  | nil => exact .refl _
  | cons st _ ih =>
    have first := st.accounts (inSession _ List.mem_cons_self)
    have later := ih fun mark mem => inSession mark (List.mem_cons_of_mem _ mem)
    exact first.append later

/-- The operations of a session: calls, each on behalf of a character. -/
def asks (calls : List (Npc × Call)) : List Operation := calls.map fun (npc, call) => .ask npc call

/-- Calls can be split. -/
lemma run_asks_append (c : Conversation σ) (earlier later : List (Npc × Call)) :
    c.run (asks (earlier ++ later)) = (c.run (asks earlier)).run (asks later) := by
  rw [run, asks, List.map_append, List.foldl_append]
  rfl

/-- Calls stay within the session. -/
lemma history_asks_inSession {c : Conversation σ} {calls : List (Npc × Call)} {mark : Mark}
    (mem : mark ∈ c.history (asks calls)) : mark.InSession := by
  induction calls generalizing c with
  | nil => cases mem
  | cons call rest ih =>
    obtain mem | mem := List.mem_append.1 mem
    · exact Call.marks_inSession mem
    · exact ih mem

/-- Calls leave a frontier that their history accounts for. -/
lemma run_accounts (c : Conversation σ) (calls : List (Npc × Call)) :
    Accounts c.frontier.keys (c.history (asks calls)) (c.run (asks calls)).frontier.keys :=
  (c.run_trace (asks calls)).accounts fun _ => history_asks_inSession

/-- A random visit that succeeds takes one key out of the frontier. -/
lemma size_visitDrawn {c : Conversation σ} {npc : Npc} {key : Key}
    (drawn : (c.visitDrawn npc).1 = .ok key) :
    (c.visitDrawn npc).2.frontier.size + 1 = c.frontier.size := by
  have v := c.visitDrawn_inv npc
  generalize c.visitDrawn npc = r at v drawn
  obtain ⟨result, c'⟩ := r
  cases drawn
  cases v with
  | shown mem _ v =>
    cases v with
    | shown _ _ _ =>
      have positive := List.length_pos_of_mem mem
      show (c.frontier.keys.erase key).length + 1 = c.frontier.keys.length
      rw [List.length_erase_of_mem mem]
      exact Nat.sub_add_cancel positive

/-- So does a random visit from outside. -/
lemma size_visitRandom {c : Conversation σ} {npc : Npc} (shown : (c.visitRandom npc).1 = .ok ()) :
    (c.visitRandom npc).2.frontier.size + 1 = c.frontier.size := by
  obtain ⟨_, refused⟩ | ⟨_, drawn⟩ := c.visitRandom_inv npc
  · rw [refused] at shown
    cases shown
  · rw [drawn] at shown ⊢
    cases result : (c.visitDrawn npc).1 with
    | ok key => exact size_visitDrawn result
    | error e =>
      rw [result] at shown
      cases shown

end Conversation

/-! ## Without restarts -/

/-- An action that puts no key into the frontier. -/
def Action.NeverRestarts (action : Action) : Prop :=
  ∀ state key, Navigation.restart key ∉ (action state).2

/-- An action that only jumps puts no key into the frontier. -/
lemma Action.neverRestarts_jump (target : Key) :
    Action.NeverRestarts fun state => (state, [.jump target]) := by
  intro state key mem
  cases List.mem_singleton.1 mem

/-- Offers without an action that puts a key into the frontier. -/
structure ChoiceSet.NeverRestarts (s : ChoiceSet) : Prop where
  choices : ∀ choice ∈ s.choices, Action.NeverRestarts choice.action
  presentation : ∀ p item, s.presentation = some p → Action.NeverRestarts (p.action item)

/-- Without offers there is nothing to restart. -/
lemma ChoiceSet.NeverRestarts.empty : ChoiceSet.empty.NeverRestarts := ⟨nofun, nofun⟩

/-- A choice that never restarts can be added to offers that never do. -/
lemma ChoiceSet.NeverRestarts.withChoice {s : ChoiceSet} (never : s.NeverRestarts)
    (label : String) {action : Action} (restartless : Action.NeverRestarts action) :
    (s.withChoice label action).NeverRestarts where
  choices choice mem := by
    obtain before | last := List.mem_append.1 mem
    · exact never.choices choice before
    · cases List.mem_singleton.1 last
      exact restartless
  presentation := never.presentation

/-- A graph without an action that puts a key into the frontier. -/
def Graph.NeverRestarts (g : Graph) : Prop :=
  ∀ key node, g.get? key = some node → ∀ speaker, (node.offer speaker).NeverRestarts

/-- A graph without nodes never restarts. -/
lemma Graph.NeverRestarts.empty : Graph.empty.NeverRestarts := nofun

/-- A node whose offers never restart can be put into a graph that never does. -/
lemma Graph.NeverRestarts.insert {g : Graph} (never : g.NeverRestarts) (key : Key) {node : Node}
    (offers : ∀ speaker, (node.offer speaker).NeverRestarts) :
    (g.insert key node).NeverRestarts := by
  intro other found get
  by_cases e : other.name = key.name
  · rw [Graph.get?, Graph.insert, e, Dictionary.get?_insert_self] at get
    cases get
    exact offers
  · rw [Graph.get?, Graph.insert, Dictionary.get?_insert_of_ne _ e] at get
    exact never other found get

/-- An episode without an action that puts a key into the frontier. -/
structure Episode.NeverRestarts (e : Episode) : Prop where
  actions : ∀ action ∈ e.actions, Action.NeverRestarts action
  present : ∀ items action item, e.present = some (items, action) →
    Action.NeverRestarts (action item)

/-- What an episode accepts is one of its actions. -/
lemma Episode.NeverRestarts.accept {e : Episode} (never : e.NeverRestarts) {s : Selection}
    {action : Action} (accepted : e.accept s = .ok action) : Action.NeverRestarts action := by
  have same := Episode.accept_episode accepted
  cases s with
  | choice handle =>
    rw [Episode.accept_choice same] at accepted
    split at accepted
    · rename_i found
      cases accepted
      exact never.actions _ (List.mem_of_getElem? found)
    · cases accepted
  | present handle item =>
    rw [Episode.accept_present same] at accepted
    split at accepted
    · rename_i items presented shown
      split at accepted
      · cases accepted
        exact never.present items presented item shown
      · cases accepted
    · cases accepted

namespace Conversation

variable {σ : Type}

/-- The live episode has no action that puts a key into the frontier. -/
def NeverRestarts (c : Conversation σ) : Prop := ∀ e, c.episode = some e → e.NeverRestarts

variable [Surface σ]

/-- An episode of a graph that never restarts has no action that does. -/
lemma Visit.neverRestarts {c : Conversation σ} {npc key r} (v : Visit c npc key r)
    (never : npc.graph.NeverRestarts) (before : c.NeverRestarts) : r.2.NeverRestarts := by
  cases v with
  | ended _ => exact before
  | unknown _ _ => exact before
  | unsupported _ _ _ _ => exact before
  | @shown node items _ found collected =>
    have offers := never key node found npc.speaker
    rintro e ⟨⟩
    constructor
    · intro action mem
      obtain ⟨choice, offered, rfl⟩ := List.mem_map.1 mem
      exact offers.choices choice offered
    · rintro items action item ⟨⟩
      cases offered : (node.offer npc.speaker).presentation with
      | none =>
        rw [offered] at collected
        cases collected
      | some p =>
        rw [offered, collect] at collected
        split at collected
        · cases collected
          exact offers.presentation p item offered
        · cases collected

/-- The same of a random visit. -/
lemma VisitDrawn.neverRestarts {c : Conversation σ} {npc r} (v : VisitDrawn c npc r)
    (never : npc.graph.NeverRestarts) (before : c.NeverRestarts) : r.2.NeverRestarts := by
  cases v with
  | exhausted _ => exact before
  | failed _ _ v => exact v.neverRestarts never before
  | shown _ _ v => exact v.neverRestarts never before

/-- Requests lead to episodes of the graph only. -/
lemma Follow.neverRestarts {c : Conversation σ} {npc requests soFar r}
    (f : Follow npc c requests soFar r) (never : npc.graph.NeverRestarts)
    (before : c.NeverRestarts) : r.2.NeverRestarts := by
  induction f with
  | done => exact before
  | restart _ ih => exact ih before
  | jump v _ ih => exact ih (v.neverRestarts never before)
  | jumpFailed v => exact v.neverRestarts never before
  | resume v _ ih => exact ih (v.neverRestarts never before)
  | resumeFailed v => exact v.neverRestarts never before

/-- A selection of an episode that never restarts puts no key into the frontier. -/
lemma selectMarks_neverRestarts {c : Conversation σ} (before : c.NeverRestarts) (npc : Npc)
    (s : Selection) (key : Key) : Mark.restarted key ∉ c.selectMarks npc s := by
  intro mem
  rw [selectMarks] at mem
  split at mem
  · rename_i action accepted
    obtain ⟨_, e, live, accepted⟩ := accept_ok accepted
    obtain e | mem := List.mem_cons.1 mem
    · cases e
    · cases followMarks_moves mem with
      | restarted mem => exact (before e live).accept accepted npc.state key mem
  · obtain e := List.mem_singleton.1 mem
    cases e

/-- A selection leads to episodes of the graph only. -/
lemma select_neverRestarts {c : Conversation σ} {npc : Npc} (never : npc.graph.NeverRestarts)
    (before : c.NeverRestarts) (s : Selection) : (c.select npc s).2.1.NeverRestarts := by
  cases verdict : c.accept s with
  | error v =>
    rw [select_refused verdict]
    exact before
  | ok action =>
    rw [select_accepted verdict]
    have f := c.consumed.follow_inv (npc.acted action) (action npc.state).2 .stalled
    exact f.neverRestarts never nofun

/-- A call on behalf of a character that never restarts leads to episodes of its graph only. -/
lemma perform_neverRestarts {c : Conversation σ} {npc : Npc} (never : npc.graph.NeverRestarts)
    (before : c.NeverRestarts) (call : Call) : (call.perform c npc).2.1.NeverRestarts := by
  cases call with
  | visit key => exact (c.visit_inv npc key).neverRestarts never before
  | visitRandom =>
    rw [Call.perform]
    obtain ⟨_, e⟩ | ⟨_, e⟩ := c.visitRandom_inv npc
    · rw [e]
      exact before
    · rw [e]
      exact (c.visitDrawn_inv npc).neverRestarts never before
  | select s => exact select_neverRestarts never before s
  | handleEvent event =>
    rw [Call.perform]
    cases reported : (Surface.respond c.surface event).1 with
    | none =>
      rw [handleEvent_silent reported]
      exact before
    | some s =>
      rw [handleEvent_reported reported]
      exact select_neverRestarts (c := c.heard event) never before s

/-- Such a call puts no key into the frontier. -/
lemma marks_neverRestarts {c : Conversation σ} (before : c.NeverRestarts) (npc : Npc)
    (call : Call) (key : Key) : Mark.restarted key ∉ call.marks c npc := by
  intro mem
  cases call with
  | visit other =>
    have e := List.mem_singleton.1 mem
    rw [visitMark] at e
    split at e <;> cases e
  | visitRandom =>
    rw [Call.marks] at mem
    split at mem
    · cases List.mem_singleton.1 mem
    · have e := List.mem_singleton.1 mem
      rw [visitDrawnMark] at e
      split at e <;> cases e
  | select s => exact selectMarks_neverRestarts before npc s key mem
  | handleEvent event =>
    obtain e | mem := List.mem_cons.1 mem
    · cases e
    · split at mem
      · exact selectMarks_neverRestarts (c := c.heard event) before npc _ key mem
      · cases mem

/-- Calls on behalf of characters that never restart put no key into the frontier. -/
lemma history_neverRestarts {c : Conversation σ} {calls : List (Npc × Call)}
    (never : ∀ call ∈ calls, call.1.graph.NeverRestarts) (before : c.NeverRestarts) :
    restartedKeys (c.history (asks calls)) = [] := by
  induction calls generalizing c with
  | nil => rfl
  | cons call rest ih =>
    obtain ⟨npc, call⟩ := call
    have after := perform_neverRestarts (never _ List.mem_cons_self) before call
    have later := ih (fun call mem => never call (List.mem_cons_of_mem _ mem)) after
    have now : restartedKeys (call.marks c npc) = [] := by
      rw [restartedKeys, List.filterMap_eq_nil_iff]
      intro mark mem
      cases mark with
      | restarted key => exact absurd mem (marks_neverRestarts before npc call key)
      | _ => rfl
    show restartedKeys (call.marks c npc ++ _) = []
    rw [restartedKeys_append, now]
    exact later

/-! ## The accounts of a session -/

/-- The frontier over a session. It is the entry keys with every mark replayed on them: restarts add
their key at the end, visits take theirs out, and nothing else counts. Hence each key occurs as
often as it did at first, plus its restarts, less its visits from the frontier; what stays keeps its
order from any moment on; and every random visit that succeeds takes out one key. Without restarts
the frontier only ever loses keys. -/
theorem session_accounts (c : Conversation σ) (entryKeys : List Key)
    (calls : List (Npc × Call)) :
    let start := c.startSession entryKeys
    let marks := start.history (asks calls)
    let frontier := (start.run (asks calls)).frontier
    frontier.keys = marks.foldl Mark.replay entryKeys ∧
    (∀ key, frontier.count key + marks.countP (Mark.uses key) =
      entryKeys.count key + marks.count (.restarted key)) ∧
    (∀ earlier later, calls = earlier ++ later →
      let now := start.run (asks earlier)
      frontier.keys.Sublist (now.frontier.keys ++ restartedKeys (now.history (asks later)))) ∧
    (∀ (c : Conversation σ) (npc : Npc),
      (∀ key, (c.visitDrawn npc).1 = .ok key →
        (c.visitDrawn npc).2.frontier.size + 1 = c.frontier.size) ∧
      ((c.visitRandom npc).1 = .ok () →
        (c.visitRandom npc).2.frontier.size + 1 = c.frontier.size)) ∧
    ((∀ call ∈ calls, call.1.graph.NeverRestarts) →
      frontier.keys.Sublist entryKeys ∧ marks.countP Mark.draws ≤ entryKeys.length) := by
  intro start marks frontier
  have acc : Accounts entryKeys marks frontier.keys := start.run_accounts calls
  refine ⟨acc.replay, ?_, ?_, fun c npc => ⟨fun _ => size_visitDrawn, size_visitRandom⟩, ?_⟩
  · intro key
    rw [← count_restartedKeys]
    exact acc.count key
  · rintro earlier later rfl now
    have order := (now.run_accounts later).order
    rwa [← run_asks_append] at order
  · intro never
    have none : restartedKeys marks = [] := history_neverRestarts never nofun
    have order := acc.order
    have size := acc.size
    have drawn := acc.drawn
    rw [none] at order size
    rw [List.append_nil] at order
    refine ⟨order, ?_⟩
    rw [List.length_nil] at size
    omega

/-- On a walk over a hill the frontier is used up, with two visits and one random draw. -/
theorem session_accounts_walk :
    let hill : Key := ⟨"hill"⟩
    let dale : Key := ⟨"dale"⟩
    let guide : Npc := ⟨"guide", .empty, Graph.empty
      |>.insert hill ((Node.fixed "Uphill.").withOffer fun _ =>
        ChoiceSet.empty.withChoice "On" fun state => (state, [.jump dale]))
      |>.insert dale (Node.fixed "Downhill.")⟩
    let calls := [(guide, .visit hill), (guide, .select (.choice ⟨1, 0⟩)), (guide, .visitRandom)]
    let keys := [hill, dale, hill]
    let c := create Recorder.blank .empty (.ofSeed 0)
    (∀ call ∈ calls, call.1.graph.NeverRestarts) ∧
      ((c.startSession keys).run (asks calls)).frontier.keys.Sublist keys ∧
      ((c.startSession keys).history (asks calls)).countP Mark.draws ≤ keys.length := by
  intro hill dale guide calls keys c
  have never : guide.graph.NeverRestarts :=
    (Graph.NeverRestarts.empty.insert hill fun _ =>
      ChoiceSet.NeverRestarts.empty.withChoice "On" (Action.neverRestarts_jump dale)).insert dale
        fun _ => .empty
  have all : ∀ call ∈ calls, call.1.graph.NeverRestarts := by
    simp [calls, never]
  obtain ⟨_, _, _, _, accounts⟩ := session_accounts c keys calls
  exact ⟨all, accounts all⟩

end Conversation

end Parley
