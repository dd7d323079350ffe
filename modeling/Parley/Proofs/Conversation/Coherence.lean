import Parley.Proofs.Conversation.History
import Parley.Proofs.Surface.Lawful

/-!
# Coherence of conversations

Phase, live episode, episode numbers and the page of the surface are changed in different places,
yet they agree in every reachable conversation. `Numbered` is the part that does not look at the
surface: the phase tells whether an episode is live, and episodes are numbered from one on without
gaps. `ShownOn` is the page of an episode. Both are preserved by every step, on any lawful surface,
and `run_coherent` puts them together for the surfaces of this library.
-/

namespace Parley

/-- The number of the episode that a mark tells of. -/
def Mark.shownId? : Mark → Option Nat
  | .shown id _ _ _ => some id
  | _ => none

/-- The numbers of all episodes of a history, oldest first. -/
def handedOut (marks : List Mark) : List Nat := marks.filterMap Mark.shownId?

/-- Histories hand out the numbers of their parts. -/
lemma handedOut_append (marks1 marks2 : List Mark) :
    handedOut (marks1 ++ marks2) = handedOut marks1 ++ handedOut marks2 :=
  List.filterMap_append

/-- The page is that of the episode: one text, a handle for each action in order, and the items if
there is a presentation. -/
structure Episode.ShownOn (e : Episode) (p : Page) : Prop where
  text : ∃ text, p.texts = [text]
  choices : p.choices.map (·.2) = (List.range e.actions.length).map (⟨e.id, ·⟩)
  present : p.present = e.present.map fun (items, _) => (items, ⟨e.id⟩)

/-- An episode accepts whatever its page offers. -/
lemma Episode.ShownOn.accepts {e : Episode} {p : Page} {pick s} (shown : e.ShownOn p)
    (offered : p.selectionFor pick = some s) : ∃ action, e.accept s = .ok action := by
  cases pick with
  | choice index =>
    obtain ⟨⟨label, handle⟩, found, rfl⟩ := Option.map_eq_some_iff.1 offered
    have listed : (p.choices.map (·.2))[index]? = some handle := by
      rw [List.getElem?_map, found]
      rfl
    rw [shown.choices, List.getElem?_map] at listed
    obtain ⟨i, counted, rfl⟩ := Option.map_eq_some_iff.1 listed
    obtain ⟨inside, e_i⟩ := List.getElem?_eq_some_iff.1 counted
    rw [List.getElem_range] at e_i
    rw [List.length_range] at inside
    subst e_i
    refine ⟨e.actions[index], ?_⟩
    rw [Episode.accept_choice rfl, List.getElem?_eq_getElem inside]
  | present index =>
    cases presented : e.present with
    | none =>
      have nothing : p.present = none := by rw [shown.present, presented]; rfl
      rw [Page.selectionFor, nothing] at offered
      cases offered
    | some items =>
      obtain ⟨items, action⟩ := items
      have something : p.present = some (items, ⟨e.id⟩) := by rw [shown.present, presented]; rfl
      rw [Page.selectionFor, something] at offered
      obtain ⟨item, found, rfl⟩ := Option.map_eq_some_iff.1 offered
      refine ⟨action item, ?_⟩
      rw [Episode.accept_present rfl, presented]
      exact if_pos (List.mem_of_getElem? found)

namespace Conversation

variable {σ : Type} [Surface σ]

/-! ## Phase and numbers -/

/-- Phase and episode agree, and the history numbered its episodes from one on without gaps; a live
episode has the latest number. -/
structure Numbered (marks : List Mark) (c : Conversation σ) : Prop where
  presenting_iff : c.phase = .presenting ↔ c.currentKey.isSome
  handed_out : handedOut marks = List.range' 1 c.episodesStarted
  live : ∀ e, c.episode = some e → e.id = c.episodesStarted ∧ 1 ≤ c.episodesStarted

omit [Surface σ] in
/-- A conversation starts without a number. -/
lemma Numbered.create (surface : σ) (collections : Collections) (source : Random.Source) :
    Numbered [] (create surface collections source) where
  presenting_iff := by simp [Conversation.create, currentKey]
  handed_out := rfl
  live := nofun

omit [Surface σ] in
/-- Steps that show nothing hand out no number. -/
lemma Numbered.silent {marks : List Mark} {c c' : Conversation σ} {mark : Mark}
    (num : Numbered marks c) (unshown : mark.shownId? = none)
    (started : c'.episodesStarted = c.episodesStarted) :
    handedOut (marks ++ [mark]) = List.range' 1 c'.episodesStarted := by
  rw [handedOut_append, started, num.handed_out]
  simp [handedOut, unshown]

/-- Every step keeps phase and numbers in agreement. -/
lemma Numbered.step {marks : List Mark} {c c' : Conversation σ} {mark : Mark}
    (num : Numbered marks c) (st : Step mark c c') : Numbered (marks ++ [mark]) c' := by
  cases st with
  | started entryKeys =>
    exact ⟨by simp [startSession, currentKey], num.silent rfl rfl, nofun⟩
  | ended => exact ⟨by simp [endSession, currentKey], num.silent rfl rfl, nofun⟩
  | heard event => exact ⟨num.presenting_iff, num.silent rfl rfl, num.live⟩
  | accepted _ => exact ⟨by simp [consumed, currentKey], num.silent rfl rfl, nofun⟩
  | failed e source => exact ⟨num.presenting_iff, num.silent rfl rfl, num.live⟩
  | restarted key => exact ⟨num.presenting_iff, num.silent rfl rfl, num.live⟩
  | shown _ _ _ _ =>
    -- the new episode takes the number behind all that were handed out
    refine ⟨by simp [showing, currentKey], ?_, ?_⟩
    · rw [handedOut_append, num.handed_out]
      show _ = List.range' 1 (c.episodesStarted + 1)
      rw [List.range'_concat]
      simp [handedOut, Mark.shownId?, Nat.add_comm]
    · rintro e ⟨⟩
      exact ⟨rfl, Nat.le_add_left 1 c.episodesStarted⟩

omit [Surface σ] in
/-- A live episode is presented. -/
lemma Numbered.presenting {marks : List Mark} {c : Conversation σ} {e : Episode}
    (num : Numbered marks c) (live : c.episode = some e) : c.phase = .presenting := by
  rw [num.presenting_iff, currentKey, live]
  rfl

omit [Surface σ] in
/-- So the session of a live episode goes on. -/
lemma Numbered.going_on {marks : List Mark} {c : Conversation σ} {e : Episode}
    (num : Numbered marks c) (live : c.episode = some e) : c.phase ≠ .ended := by
  rw [num.presenting live]
  exact nofun

omit [Surface σ] in
/-- While a node is presented, an episode is live. -/
lemma Numbered.shown {marks : List Mark} {c : Conversation σ} (num : Numbered marks c)
    (presenting : c.phase = .presenting) : ∃ e, c.episode = some e := by
  rwa [num.presenting_iff, currentKey, Option.isSome_map, Option.isSome_iff_exists] at presenting

omit [Surface σ] in
/-- While nothing is presented, no episode is live. -/
lemma Numbered.unshown {marks : List Mark} {c : Conversation σ} (num : Numbered marks c)
    (unpresented : c.phase ≠ .presenting) : c.episode = none := by
  rwa [Ne, num.presenting_iff, currentKey, Option.isSome_map, Option.not_isSome_iff_eq_none]
    at unpresented

/-- Phase and numbers agree in every reachable conversation. -/
lemma run_numbered (surface : σ) (collections : Collections) (source : Random.Source)
    (ops : List Operation) :
    Numbered ((create surface collections source).history ops)
      ((create surface collections source).run ops) :=
  (run_trace _ ops).preserves Numbered.step (Numbered.create surface collections source)

/-- A reachable conversation has a history that its numbers agree with. -/
lemma Reachable.numbered {c : Conversation σ} (reachable : c.Reachable) :
    ∃ marks, Numbered marks c := by
  obtain ⟨surface, collections, source, ops, rfl⟩ := reachable
  exact ⟨_, run_numbered surface collections source ops⟩

/-! ## The page -/

/-- The live episode is the one on the page. -/
def Displayed (c : Conversation σ) : Prop :=
  ∀ e, c.episode = some e → e.ShownOn (Surface.page c.surface)

omit [Surface σ] in
/-- The handles of choices count on from the first. -/
lemma handles_choicesFrom (id : Nat) (choices : List Choice) (index : Nat) :
    (choicesFrom id choices index).map (·.2) =
      (List.range' index choices.length).map (⟨id, ·⟩) := by
  induction choices generalizing index with
  | nil => rfl
  | cons choice rest ih =>
    have tail := ih (index + 1)
    rw [choicesFrom] at tail ⊢
    rw [List.zipIdx_cons, List.map_cons, List.map_cons, tail, List.length_cons, List.range'_succ,
      List.map_cons]

section Lawful

variable [LawfulSurface σ]

/-- A node that is shown is the one on the page. -/
lemma showing_displayed (c : Conversation σ) (npc : Npc) (key : Key) (node : Node)
    (items : Option (List Item × (Item → Action))) :
    (c.showing npc key node items).Displayed := by
  rintro e ⟨⟩
  rw [showing, page_display]
  refine ⟨⟨_, rfl⟩, ?_, ?_⟩
  · rw [handles_choicesFrom, List.length_map, List.range_eq_range']
  · cases items with
    | none => rfl
    | some items => rfl

/-- Every step leaves the live episode on the page. -/
lemma Displayed.step {c c' : Conversation σ} {mark : Mark} (displayed : c.Displayed)
    (st : Step mark c c') : c'.Displayed := by
  cases st with
  | started entryKeys =>
    intro e live
    cases live
  | ended =>
    intro e live
    cases live
  | heard event =>
    intro e live
    rw [heard, LawfulSurface.page_respond]
    exact displayed e live
  | accepted _ =>
    intro e live
    cases live
  | failed e source => exact displayed
  | restarted key => exact displayed
  | shown _ _ _ _ => exact showing_displayed _ _ _ _ _

/-- Whatever the surface reports while an episode is live is accepted. -/
lemma Displayed.accepts {c : Conversation σ} {event : InputEvent} {s : Selection} {e : Episode}
    (displayed : c.Displayed) (going_on : c.phase ≠ .ended) (live : c.episode = some e)
    (reported : (Surface.respond c.surface event).1 = some s) :
    ∃ action, e.accept s = .ok action ∧ (c.heard event).accept s = .ok action := by
  obtain ⟨pick, offered⟩ := LawfulSurface.respond_offered reported
  obtain ⟨action, accepted⟩ := (displayed e live).accepts offered
  have decides := accept_of_live (c := c.heard event) going_on live s
  exact ⟨action, accepted, decides.trans accepted⟩

/-- The live episode is on the page in every reachable conversation. -/
lemma run_displayed (surface : σ) (collections : Collections) (source : Random.Source)
    (ops : List Operation) : ((create surface collections source).run ops).Displayed :=
  (run_trace _ ops).preserves (P := fun _ c => c.Displayed)
    (fun displayed st => displayed.step st) nofun

/-- In a reachable conversation the live episode is on the page. -/
lemma Reachable.displayed {c : Conversation σ} (reachable : c.Reachable) : c.Displayed := by
  obtain ⟨surface, collections, source, ops, rfl⟩ := reachable
  exact run_displayed surface collections source ops

/-- While a node is presented, whatever its page offers is accepted, from any surface. -/
lemma Reachable.accepts {c : Conversation σ} (reachable : c.Reachable)
    (presenting : c.phase = .presenting) {pick : Pick} {s : Selection}
    (offered : (Surface.page c.surface).selectionFor pick = some s) (surface : σ) :
    ∃ action, { c with surface }.accept s = .ok action := by
  obtain ⟨marks, num⟩ := reachable.numbered
  obtain ⟨e, live⟩ := num.shown presenting
  obtain ⟨action, accepted⟩ := (reachable.displayed e live).accepts offered
  have decides := accept_of_live (c := { c with surface }) (num.going_on live) live s
  exact ⟨action, decides.trans accepted⟩

end Lawful

/-! ## Coherence -/

/-- Phase, live episode, history and page agree. -/
structure Coherent (marks : List Mark) (c : Conversation σ) : Prop where
  /-- A node is presented if and only if an episode is live. -/
  presenting_iff : c.phase = .presenting ↔ c.currentKey.isSome
  /-- Neither an idle conversation nor an ended one has an episode. -/
  waiting : c.phase = .idle ∨ c.phase = .ended → c.episode = none
  /-- The number of a live episode is the number of episodes so far, and larger than the numbers
  handed out before. -/
  latest : ∀ e, c.episode = some e → e.id = c.episodesStarted ∧ e.id = (handedOut marks).length ∧
    ∃ earlier, handedOut marks = earlier ++ [e.id] ∧ ∀ id ∈ earlier, id < e.id
  /-- While a node is presented, the page is that of the live episode. -/
  page : c.phase = .presenting → ∃ e, c.episode = some e ∧ e.ShownOn (Surface.page c.surface)

/-- Agreement of phase and numbers, and a page that shows the live episode, make for coherence. -/
lemma Numbered.coherent {marks : List Mark} {c : Conversation σ} (num : Numbered marks c)
    (displayed : c.Displayed) : Coherent marks c where
  presenting_iff := num.presenting_iff
  waiting := by
    intro phase
    refine num.unshown ?_
    obtain phase | phase := phase <;> rw [phase] <;> exact nofun
  latest := by
    intro e live
    obtain ⟨id_eq, positive⟩ := num.live e live
    have split : handedOut marks = List.range' 1 (c.episodesStarted - 1) ++ [e.id] := by
      obtain ⟨n, started⟩ := Nat.exists_eq_add_of_le' positive
      rw [num.handed_out, id_eq, started, List.range'_concat, Nat.add_sub_cancel, Nat.one_mul,
        Nat.add_comm]
    refine ⟨id_eq, ?_, _, split, ?_⟩
    · rw [num.handed_out, List.length_range', id_eq]
    · intro id earlier
      have below := (List.mem_range'_1.1 earlier).2
      omega
  page := by
    intro presenting
    obtain ⟨e, live⟩ := num.shown presenting
    exact ⟨e, live, displayed e live⟩

/-- Every reachable conversation on a lawful surface is coherent. -/
lemma coherent_run [LawfulSurface σ] (surface : σ) (collections : Collections)
    (source : Random.Source) (ops : List Operation) :
    Coherent ((create surface collections source).history ops)
      ((create surface collections source).run ops) :=
  (run_numbered surface collections source ops).coherent
    (run_displayed surface collections source ops)

omit [Surface σ] in
/-- On a terminal, on an automated surface with any policy and on a recorder, every list of
operations leads from a fresh conversation to a coherent one. -/
theorem run_coherent (collections : Collections) (source : Random.Source)
    (ops : List Operation) :
    (∀ t : Terminal, Coherent ((create t collections source).history ops)
      ((create t collections source).run ops)) ∧
    (∀ (π : Type) [Policy π] (a : Automated π),
      Coherent ((create a collections source).history ops)
        ((create a collections source).run ops)) ∧
    (∀ r : Recorder, Coherent ((create r collections source).history ops)
      ((create r collections source).run ops)) :=
  ⟨fun t => coherent_run t collections source ops,
    fun _ _ a => coherent_run a collections source ops,
    fun r => coherent_run r collections source ops⟩

end Conversation

end Parley
