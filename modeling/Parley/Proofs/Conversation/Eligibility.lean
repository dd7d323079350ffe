import Mathlib.Data.List.Nodup
import Parley.Proofs.Conversation.Accounting

/-!
# Presented keys and the frontier

A visit takes one occurrence of its key out of the frontier, so a node that is presented is still
eligible for a random draw if its key was there twice, or if it was restarted since. `ShowsLast`
finds the visit that a presented node goes back to in a history, and `Trace.eligible` reads the
frontier off the marks around it. `presented_eligible` states this for every reachable conversation
and for every call on it; where keys are only ever added that are not in the frontier yet
(`AddsNew`), nothing but a restart by the same action makes a presented key eligible.
-/

namespace Parley

/-! ## The last node of a history -/

/-- The marks that leave the presented node as it is. -/
def Mark.Still : Mark → Prop
  | .heard | .failed _ | .restarted _ => True
  | _ => False

/-- A history shows the node under `key` last: `before` was marked up to its visit, and since then
no node was shown, no selection accepted and no session started or ended. -/
structure ShowsLast (marks : List Mark) (key : Key) (before since : List Mark) : Prop where
  split : ∃ id listed drawn, marks = before ++ .shown id key listed drawn :: since
  still : ∀ mark ∈ since, mark.Still

/-- Which node was shown last does not depend on what came before. -/
lemma ShowsLast.cons {marks before since : List Mark} {key : Key}
    (last : ShowsLast marks key before since) (mark : Mark) :
    ShowsLast (mark :: marks) key (mark :: before) since := by
  obtain ⟨⟨id, listed, drawn, rfl⟩, still⟩ := last
  exact ⟨⟨id, listed, drawn, rfl⟩, still⟩

/-- One occurrence is taken out, so a second one stays. -/
lemma mem_erase_iff_two_le_count (keys : List Key) (key : Key) :
    key ∈ keys.erase key ↔ 2 ≤ keys.count key := by
  rw [← List.count_pos_iff, List.count_erase_self]
  omega

/-- Within a session only restarts make a key more frequent. -/
lemma count_replay_le {marks : List Mark} (inSession : ∀ mark ∈ marks, mark.InSession)
    (keys : List Key) (key : Key) :
    (marks.foldl Mark.replay keys).count key ≤ keys.count key ∨ .restarted key ∈ marks := by
  induction marks generalizing keys with
  | nil => exact .inl (Nat.le_refl _)
  | cons mark rest ih =>
    have first := inSession mark List.mem_cons_self
    obtain fewer | restarted :=
      ih (fun mark mem => inSession mark (List.mem_cons_of_mem _ mem)) (mark.replay keys)
    · cases mark with
      | started entryKeys => exact first.elim
      | ended => exact first.elim
      | restarted other =>
        by_cases same : other = key
        · subst same
          exact .inr List.mem_cons_self
        · refine .inl (Nat.le_trans fewer ?_)
          simp [Mark.replay, List.count_append, same]
      | shown id other listed drawn =>
        exact .inl (Nat.le_trans fewer (List.erase_sublist.count_le key))
      | heard => exact .inl fewer
      | accepted id => exact .inl fewer
      | failed e => exact .inl fewer
    · exact .inr (List.mem_cons_of_mem _ restarted)

namespace Conversation

variable {σ : Type} [Surface σ]

/-- The mark of a step tells what became of the frontier. -/
lemma Step.replay {c c' : Conversation σ} {mark : Mark} (st : Step mark c c') :
    c'.frontier.keys = mark.replay c.frontier.keys := by
  cases st <;> rfl

/-- After a trace a node is presented that was visited during the trace, or the same as before. Its
key is in the frontier if a second occurrence was left by the visit, or if it was restarted since. -/
lemma Trace.presented {c c' : Conversation σ} {marks : List Mark} {key : Key}
    (tr : Trace marks c c') (presented : c'.currentKey = some key) :
    (∃ before since, ShowsLast marks key before since ∧
      (key ∈ c'.frontier.keys ↔
        2 ≤ (before.foldl Mark.replay c.frontier.keys).count key ∨ .restarted key ∈ since)) ∨
    ((∀ mark ∈ marks, mark.Still) ∧ c.currentKey = some key ∧
      (key ∈ c'.frontier.keys ↔ key ∈ c.frontier.keys ∨ .restarted key ∈ marks)) := by
  induction tr with
  | nil => exact .inr ⟨nofun, presented, by simp⟩
  | @cons c c1 c2 mark rest st _ ih =>
    obtain ⟨before, since, last, eligible⟩ | ⟨still, current, eligible⟩ := ih presented
    · refine .inl ⟨mark :: before, since, last.cons mark, ?_⟩
      rwa [List.foldl_cons, ← st.replay]
    -- the rest of the trace left the node as it is, so the first step decides
    · have kept (quiet : mark.Still) : ∀ m ∈ mark :: rest, m.Still := by
        intro m mem
        obtain rfl | mem := List.mem_cons.1 mem
        · exact quiet
        · exact still m mem
      cases st with
      | started entryKeys => cases current
      | ended => cases current
      | accepted _ => cases current
      | heard event => exact .inr ⟨kept trivial, current, by simpa [heard] using eligible⟩
      | failed e source => exact .inr ⟨kept trivial, current, by simpa using eligible⟩
      | restarted other =>
        refine .inr ⟨kept trivial, current, ?_⟩
        rw [eligible]
        simp [Frontier.push, or_assoc]
      | @shown _ npc _ node items drawn source live _ found collected =>
        cases current
        refine .inl ⟨[], rest, ⟨⟨_, _, _, rfl⟩, still⟩, ?_⟩
        rw [eligible, List.foldl_nil, ← mem_erase_iff_two_le_count]
        rfl

/-- If anything was shown or selected during a trace, then the node presented after it was visited
during the trace. -/
lemma Trace.eligible {c c' : Conversation σ} {marks : List Mark} {key : Key}
    (tr : Trace marks c c') (presented : c'.currentKey = some key)
    (moved : c.currentKey = none ∨ ∃ mark ∈ marks, ¬ mark.Still) :
    ∃ before since, ShowsLast marks key before since ∧
      (key ∈ c'.frontier.keys ↔
        2 ≤ (before.foldl Mark.replay c.frontier.keys).count key ∨ .restarted key ∈ since) := by
  obtain last | ⟨still, current, _⟩ := tr.presented presented
  · exact last
  · obtain unshown | ⟨mark, mem, restless⟩ := moved
    · rw [current] at unshown
      cases unshown
    · exact absurd (still mark mem) restless

end Conversation

/-! ## Keys that are added once -/

/-- The mark puts no key into a frontier of `keys` that is there already. -/
def Mark.AddsNew (keys : List Key) : Mark → Prop
  | .started entryKeys => entryKeys.Nodup
  | .restarted key => key ∉ keys
  | _ => True

/-- The same of marks one after another. -/
def AddsNew : List Key → List Mark → Prop
  | _, [] => True
  | keys, mark :: rest => mark.AddsNew keys ∧ AddsNew (mark.replay keys) rest

/-- Keys that are only added while they are not listed are never listed twice. -/
lemma AddsNew.nodup {keys : List Key} {marks : List Mark} (new : AddsNew keys marks)
    (nodup : keys.Nodup) : (marks.foldl Mark.replay keys).Nodup := by
  induction marks generalizing keys with
  | nil => exact nodup
  | cons mark rest ih =>
    obtain ⟨first, later⟩ := new
    refine ih later ?_
    cases mark with
    | started entryKeys => exact first
    | restarted key =>
      have absent : key ∉ keys := first
      exact nodup.append (List.nodup_singleton key) (by simpa using absent)
    | shown id key listed drawn => exact nodup.erase key
    | heard => exact nodup
    | ended => exact nodup
    | accepted id => exact nodup
    | failed e => exact nodup

/-- Where keys are only added while they are not listed, so they are up to any mark. -/
lemma AddsNew.earlier {keys : List Key} {before after : List Mark}
    (new : AddsNew keys (before ++ after)) : AddsNew keys before := by
  induction before generalizing keys with
  | nil => exact trivial
  | cons mark rest ih => exact ⟨new.1, ih new.2⟩

namespace Conversation

variable {σ : Type} [Surface σ]

/-- When the key of a presented node is eligible. In a reachable conversation it is in the frontier
if and only if it was there at least twice when its visit began, or was restarted since. After a
call that visited a node or got a selection accepted the same holds of the frontier before the call,
so that the key is not eligible unless the call restarted it or it was listed twice. And where keys
are only added that are not listed yet, only a restart since its visit makes it eligible. -/
theorem presented_eligible (surface : σ) (collections : Collections) (source : Random.Source)
    (ops : List Operation) :
    let c := (create surface collections source).run ops
    let marks := (create surface collections source).history ops
    (∀ key, c.currentKey = some key → ∃ before since, ShowsLast marks key before since ∧
      (key ∈ c.frontier.keys ↔
        2 ≤ (before.foldl Mark.replay []).count key ∨ .restarted key ∈ since) ∧
      (AddsNew [] marks → (key ∈ c.frontier.keys ↔ .restarted key ∈ since))) ∧
    (∀ (npc : Npc) (call : Call) (key : Key),
      (∃ mark ∈ call.marks c npc, ¬ mark.Still) →
      let c' := (call.perform c npc).2.1
      c'.currentKey = some key →
      ∃ before since, ShowsLast (call.marks c npc) key before since ∧
        (key ∈ c'.frontier.keys ↔
          2 ≤ (before.foldl Mark.replay c.frontier.keys).count key ∨ .restarted key ∈ since) ∧
        (key ∈ c'.frontier.keys →
          .restarted key ∈ call.marks c npc ∨ 2 ≤ c.frontier.count key)) := by
  intro c marks
  constructor
  · intro key presented
    have tr : Trace marks (create surface collections source) c := run_trace _ ops
    obtain ⟨before, since, last, eligible⟩ := tr.eligible presented (.inl rfl)
    refine ⟨before, since, last, eligible, fun new => ?_⟩
    obtain ⟨id, listed, drawn, split⟩ := last.split
    rw [split] at new
    have once := List.nodup_iff_count.1 (new.earlier.nodup List.nodup_nil) key
    rw [eligible]
    refine or_iff_right fun twice => ?_
    exact absurd (Nat.le_trans twice once) (by omega)
  · intro npc call key moved c' presented
    have tr : Trace (call.marks c npc) c c' := perform_trace c npc call
    obtain ⟨before, since, last, eligible⟩ := tr.eligible presented (.inr moved)
    refine ⟨before, since, last, eligible, fun mem => ?_⟩
    obtain ⟨id, listed, drawn, split⟩ := last.split
    obtain twice | restarted := eligible.1 mem
    · have inSession : ∀ mark ∈ before, mark.InSession := by
        intro mark mem
        refine @Call.marks_inSession _ _ c npc call _ ?_
        rw [split]
        exact List.mem_append_left _ mem
      obtain fewer | restarted := count_replay_le inSession c.frontier.keys key
      · exact .inr (Nat.le_trans twice fewer)
      · refine .inl ?_
        rw [split]
        exact List.mem_append_left _ restarted
    · refine .inl ?_
      rw [split]
      exact List.mem_append_right _ (List.mem_cons_of_mem _ restarted)

/-- A key that was listed twice stays eligible while its node is presented, without a restart. -/
theorem visit_leaves_second :
    let hill : Key := ⟨"hill"⟩
    let guide : Npc := ⟨"guide", .empty, Graph.empty.insert hill (Node.fixed "Uphill.")⟩
    let c := (create Recorder.blank .empty (.ofSeed 0)).startSession [hill, hill]
    (c.visit guide hill).1 = .ok () ∧ (c.visit guide hill).2.currentKey = some hill ∧
      (c.visit guide hill).2.frontier.contains hill = true ∧
      .restarted hill ∉ (Call.visit hill).marks c guide :=
  ⟨rfl, rfl, rfl, by decide⟩

/-- A node that restarts the key it jumped to leaves it eligible, and before that the key of the node
is not. -/
theorem presented_eligible_restart :
    let hill : Key := ⟨"hill"⟩
    let dale : Key := ⟨"dale"⟩
    let guide : Npc := ⟨"guide", .empty, Graph.empty
      |>.insert hill ((Node.fixed "Uphill.").withOffer fun _ =>
        ChoiceSet.empty.withChoice "On" fun state => (state, [.jump dale, .restart dale]))
      |>.insert dale (Node.fixed "Downhill.")⟩
    let ops := [.startSession [hill, dale], .ask guide (.visit hill)]
    let c := (create Recorder.blank .empty (.ofSeed 0)).run ops
    let marks := (create Recorder.blank .empty (.ofSeed 0)).history ops
    let call := Call.select (.choice ⟨1, 0⟩)
    let c' := (call.perform c guide).2.1
    c.currentKey = some hill ∧ AddsNew [] marks ∧
      (∃ mark ∈ call.marks c guide, ¬ mark.Still) ∧ c'.currentKey = some dale ∧
      dale ∈ c'.frontier.keys ∧
      (∃ before since, ShowsLast marks hill before since ∧
        (hill ∈ c.frontier.keys ↔ .restarted hill ∈ since)) ∧
      (.restarted dale ∈ call.marks c guide ∨ 2 ≤ c.frontier.count dale) := by
  intro hill dale guide ops c marks call c'
  have presented : c.currentKey = some hill := by decide
  have new : AddsNew [] marks := by
    have marked : marks = [.started [hill, dale], .shown 1 hill true false] := by decide
    have listed : [hill, dale].Nodup := by decide
    rw [marked]
    exact ⟨listed, trivial, trivial⟩
  have moved : ∃ mark ∈ call.marks c guide, ¬ mark.Still := by
    have accepted : .accepted 1 ∈ call.marks c guide := by decide
    exact ⟨.accepted 1, accepted, id⟩
  have presented' : c'.currentKey = some dale := by decide
  have mem : dale ∈ c'.frontier.keys := by decide
  obtain ⟨reached, called⟩ := presented_eligible Recorder.blank .empty (.ofSeed 0) ops
  obtain ⟨before, since, last, _, only⟩ := reached hill presented
  obtain ⟨_, _, _, _, eligible⟩ := called guide call dale moved presented'
  refine ⟨presented, new, moved, presented', mem, ?_, ?_⟩
  · exact ⟨before, since, last, only new⟩
  · exact eligible mem

end Conversation

end Parley
