import Parley.Proofs.Conversation.Coherence

/-!
# Selections

When a selection is refused (`Refuses`), and what becomes of the episode of one that is accepted: it
is used up before its action is followed, and its number is never handed out again. `Honoured` is
the invariant of histories behind this, and `selections_honoured_once` says that over a whole run at
most one selection of each episode gets its action run.
-/

namespace Parley

/-- The number of the episode whose selection was accepted. -/
def Mark.acceptedId? : Mark → Option Nat
  | .accepted id => some id
  | _ => none

/-- The episodes of all selections that were accepted, oldest first. -/
def honoured (marks : List Mark) : List Nat := marks.filterMap Mark.acceptedId?

/-- Histories honour the selections of their parts. -/
lemma honoured_append (marks1 marks2 : List Mark) :
    honoured (marks1 ++ marks2) = honoured marks1 ++ honoured marks2 :=
  List.filterMap_append

namespace Conversation

variable {σ : Type}

/-- The selections that a conversation refuses. -/
inductive Refuses (c : Conversation σ) : Selection → Prop where
  | ended {s} :
    c.phase = .ended →
    Refuses c s
  | nothingShown {s} :
    c.episode = none →
    Refuses c s
  | otherEpisode {e s} :
    c.episode = some e →
    s.episode ≠ e.id →
    Refuses c s
  | outOfRange {e handle} :
    c.episode = some e →
    e.actions.length ≤ handle.index →
    Refuses c (.choice handle)
  | notOffered {e items action handle item} :
    c.episode = some e →
    e.present = some (items, action) →
    item ∉ items →
    Refuses c (.present handle item)
  | nothingToPresent {e handle item} :
    c.episode = some e →
    e.present = none →
    Refuses c (.present handle item)

/-- What is refused is not accepted. -/
lemma Refuses.not_accepted {c : Conversation σ} {s : Selection} (refused : c.Refuses s)
    {action : Action} : c.accept s ≠ .ok action := by
  intro accepted
  cases refused with
  | ended phase => exact (accept_ok accepted).1 phase
  | nothingShown empty =>
    obtain ⟨_, e, shown, _⟩ := accept_ok accepted
    rw [empty] at shown
    cases shown
  | otherEpisode shown other => exact other (Episode.accept_episode (accept_live shown accepted))
  | outOfRange shown outside =>
    have accepted := accept_live shown accepted
    rw [Episode.accept_choice (Episode.accept_episode accepted),
      List.getElem?_eq_none outside] at accepted
    cases accepted
  | notOffered shown presents unlisted =>
    have accepted := accept_live shown accepted
    rw [Episode.accept_present (Episode.accept_episode accepted), presents] at accepted
    simp [unlisted] at accepted
  | nothingToPresent shown presents =>
    have accepted := accept_live shown accepted
    rw [Episode.accept_present (Episode.accept_episode accepted), presents] at accepted
    cases accepted

/-- What is not accepted is refused. -/
lemma refuses_of_error {c : Conversation σ} {s : Selection} {v : Violation}
    (rejected : c.accept s = .error v) : c.Refuses s := by
  rw [accept] at rejected
  split at rejected
  · rename_i phase
    exact .ended phase
  split at rejected
  · rename_i empty
    exact .nothingShown empty
  rename_i e shown
  by_cases same : s.episode = e.id
  · -- the selection names the live episode, so what is missing is the option itself
    cases s with
    | choice handle =>
      refine .outOfRange shown (Nat.le_of_not_lt fun inside => ?_)
      rw [Episode.accept_choice same, List.getElem?_eq_getElem inside] at rejected
      cases rejected
    | present handle item =>
      rw [Episode.accept_present same] at rejected
      cases presents : e.present with
      | none => exact .nothingToPresent shown presents
      | some items =>
        obtain ⟨items, action⟩ := items
        refine .notOffered shown presents fun listed => ?_
        simp [presents, listed] at rejected
  · exact .otherEpisode shown same

/-- A conversation accepts what it does not refuse. -/
lemma accept_cases (c : Conversation σ) (s : Selection) :
    (c.Refuses s ∧ ∃ v, c.accept s = .error v) ∨
      (¬ c.Refuses s ∧ ∃ action, c.accept s = .ok action) := by
  cases verdict : c.accept s with
  | error v => exact .inl ⟨refuses_of_error verdict, v, rfl⟩
  | ok action => exact .inr ⟨fun refused => refused.not_accepted verdict, action, rfl⟩

variable [Surface σ]

/-- A selection is a protocol violation if and only if it is refused. -/
lemma select_violation_iff (c : Conversation σ) (npc : Npc) (s : Selection) :
    (∃ v, (c.select npc s).1 = .error (.protocolViolation v)) ↔ c.Refuses s := by
  obtain ⟨refused, v, verdict⟩ | ⟨unrefused, action, verdict⟩ := c.accept_cases s
  · rw [select_refused verdict]
    exact ⟨fun _ => refused, fun _ => ⟨v, rfl⟩⟩
  · rw [select_accepted verdict]
    refine ⟨?_, fun refused => absurd refused unrefused⟩
    rintro ⟨v, violation⟩
    -- following an action never ends with a violation
    have f := c.consumed.follow_inv (npc.acted action) (action npc.state).2 .stalled
    cases f.error_navigational c.consumed_open violation

/-! ## Histories -/

/-- The selections that were honoured so far are of ever later episodes, and of none that is still
live. -/
structure Honoured (marks : List Mark) (c : Conversation σ) : Prop where
  numbered : Numbered marks c
  increasing : (honoured marks).Pairwise (· < ·)
  past : ∀ id ∈ honoured marks, id ≤ c.episodesStarted
  used_up : ∀ e, c.episode = some e → ∀ id ∈ honoured marks, id < e.id

omit [Surface σ] in
/-- A step without a selection keeps what was honoured, and a node that it shows is a later one. -/
lemma Honoured.silent {marks : List Mark} {c c' : Conversation σ} {mark : Mark}
    (hon : Honoured marks c) (numbered : Numbered (marks ++ [mark]) c')
    (unmarked : mark.acceptedId? = none) (later : c.episodesStarted ≤ c'.episodesStarted)
    (live : ∀ e, c'.episode = some e → c.episode = some e ∨ c.episodesStarted < e.id) :
    Honoured (marks ++ [mark]) c' := by
  have kept : honoured (marks ++ [mark]) = honoured marks := by
    rw [honoured_append]
    simp [honoured, unmarked]
  refine ⟨numbered, ?_, ?_, ?_⟩ <;> rw [kept]
  · exact hon.increasing
  · exact fun id old => Nat.le_trans (hon.past id old) later
  · intro e shown id old
    obtain before | new := live e shown
    · exact hon.used_up e before id old
    · exact Nat.lt_of_le_of_lt (hon.past id old) new

/-- Every step honours at most the live episode, which is then used up. -/
lemma Honoured.step {marks : List Mark} {c c' : Conversation σ} {mark : Mark}
    (hon : Honoured marks c) (st : Step mark c c') : Honoured (marks ++ [mark]) c' := by
  have numbered := hon.numbered.step st
  cases st with
  | started entryKeys => exact hon.silent numbered rfl (Nat.le_refl _) nofun
  | ended => exact hon.silent numbered rfl (Nat.le_refl _) nofun
  | heard event => exact hon.silent numbered rfl (Nat.le_refl _) fun _ => .inl
  | failed e source => exact hon.silent numbered rfl (Nat.le_refl _) fun _ => .inl
  | restarted key => exact hon.silent numbered rfl (Nat.le_refl _) fun _ => .inl
  | shown _ _ _ _ =>
    refine hon.silent numbered rfl (Nat.le_succ _) ?_
    rintro e ⟨⟩
    exact .inr (Nat.lt_succ_self _)
  | @accepted _ s action verdict =>
    obtain ⟨_, e, live, accepted⟩ := accept_ok verdict
    have same := Episode.accept_episode accepted
    have marked : honoured (marks ++ [.accepted s.episode]) = honoured marks ++ [e.id] := by
      rw [honoured_append, same]
      rfl
    refine ⟨numbered, ?_, ?_, nofun⟩ <;> rw [marked]
    · refine List.pairwise_append.2 ⟨hon.increasing, List.pairwise_singleton _ _, ?_⟩
      intro id old new latest
      rw [List.mem_singleton.1 latest]
      exact hon.used_up e live id old
    · intro id mem
      obtain old | latest := List.mem_append.1 mem
      · exact hon.past id old
      · rw [List.mem_singleton.1 latest]
        exact Nat.le_of_eq (hon.numbered.live e live).1

/-- Honoured selections are of ever later episodes in every reachable conversation. -/
lemma run_honoured (surface : σ) (collections : Collections) (source : Random.Source)
    (ops : List Operation) :
    Honoured ((create surface collections source).history ops)
      ((create surface collections source).run ops) :=
  (run_trace _ ops).preserves Honoured.step
    ⟨Numbered.create surface collections source, .nil, nofun, nofun⟩

/-- The requests of an action honour no selection. -/
lemma honoured_followMarks (c : Conversation σ) (npc : Npc) (requests : List Navigation) :
    honoured (c.followMarks npc requests) = [] := by
  rw [honoured, List.filterMap_eq_nil_iff]
  intro mark mem
  cases followMarks_moves mem <;> rfl

/-- What is refused leaves no trace but the refusal. -/
lemma Refuses.select {c : Conversation σ} {s : Selection} (refused : c.Refuses s) (npc : Npc) :
    (c.select npc s).2 = (c, npc) ∧ honoured (c.selectMarks npc s) = [] := by
  obtain ⟨_, v, verdict⟩ | ⟨unrefused, _⟩ := c.accept_cases s
  · rw [select_refused verdict, selectMarks, verdict]
    exact ⟨rfl, rfl⟩
  · exact absurd refused unrefused

/-- What is not refused has its action run, and is honoured. -/
lemma select_of_not_refuses {c : Conversation σ} {s : Selection} (unrefused : ¬ c.Refuses s)
    (npc : Npc) :
    ∃ action, c.accept s = .ok action ∧ (c.select npc s).2.2 = npc.acted action ∧
      honoured (c.selectMarks npc s) = [s.episode] := by
  obtain ⟨refused, _⟩ | ⟨_, action, verdict⟩ := c.accept_cases s
  · exact absurd refused unrefused
  · refine ⟨action, verdict, ?_, ?_⟩
    · rw [select_accepted verdict]
    · have rest := honoured_followMarks c.consumed (npc.acted action) (action npc.state).2
      rw [selectMarks, verdict]
      exact congrArg (s.episode :: ·) rest

/-- A selection is a protocol violation if and only if it is refused, and then nothing changes and
no action runs; any other selection runs its action. Over a whole run, each episode has at most one
selection that is honoured. -/
theorem selections_honoured_once :
    (∀ (c : Conversation σ) (npc : Npc) (s : Selection),
      ((∃ v, (c.select npc s).1 = .error (.protocolViolation v)) ↔ c.Refuses s) ∧
      (c.Refuses s → (c.select npc s).2 = (c, npc) ∧ honoured (c.selectMarks npc s) = []) ∧
      (¬ c.Refuses s → ∃ action, c.accept s = .ok action ∧
        (c.select npc s).2.2 = npc.acted action ∧
        honoured (c.selectMarks npc s) = [s.episode])) ∧
    ∀ (surface : σ) (collections : Collections) (source : Random.Source) (ops : List Operation)
      (id : Nat),
      (honoured ((create surface collections source).history ops)).count id ≤ 1 := by
  constructor
  · intro c npc s
    exact ⟨c.select_violation_iff npc s, fun refused => refused.select npc,
      fun unrefused => select_of_not_refuses unrefused npc⟩
  · intro surface collections source ops id
    have increasing := (run_honoured surface collections source ops).increasing
    have nodup : (honoured ((create surface collections source).history ops)).Nodup :=
      increasing.imp Nat.ne_of_lt
    exact List.nodup_iff_count.1 nodup id

end Conversation

end Parley
