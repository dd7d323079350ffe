import Parley.Proofs.Conversation.Inversion

/-!
# Histories of conversations

A conversation is driven by operations: sessions are started and ended, and in between it takes
calls on behalf of a character. `run` is the conversation after a list of operations, and `history`
lists what the operations did, one mark for each atomic step. One call can leave many marks, since
an action may ask for several visits.

The conversations that operations lead to are the `Reachable` ones. `Step` is the whole of what an
atomic step can do to a conversation, and `run_trace` says that every run is a trace of such steps
with its history as the labels. What every step preserves is therefore true of every reachable
conversation (`Trace.preserves`).
-/

namespace Parley

/-- What an atomic step leaves in the history of a conversation. -/
inductive Mark where
  /-- A session was started. -/
  | started (entryKeys : List Key)
  /-- The session was ended. -/
  | ended
  /-- The surface took an event. -/
  | heard
  /-- A selection of this episode was accepted, and its action was run. -/
  | accepted (id : Nat)
  /-- A visit failed or a selection was refused. -/
  | failed (error : DialogueError)
  /-- A key was put into the frontier at the request of an action. -/
  | restarted (key : Key)
  /-- A node was shown as a new episode. `listed` tells whether its key was in the frontier when
  the visit began, and `drawn` whether it was drawn from there. -/
  | shown (id : Nat) (key : Key) (listed drawn : Bool)
deriving DecidableEq

/-- The marks that requests can leave. -/
inductive Mark.Moves (requests : List Navigation) : Mark → Prop where
  | failed (error : DialogueError) :
    Moves requests (.failed error)
  | restarted {key} :
    .restart key ∈ requests →
    Moves requests (.restarted key)
  | shown (id : Nat) (key : Key) (listed drawn : Bool) :
    Moves requests (.shown id key listed drawn)

/-- The marks that neither start nor end a session. -/
def Mark.InSession : Mark → Prop
  | .started _ => False
  | .ended => False
  | _ => True

/-- Moves stay within the session. -/
lemma Mark.Moves.inSession {mark : Mark} {requests : List Navigation}
    (moves : mark.Moves requests) : mark.InSession := by
  cases moves <;> exact trivial

/-- What some requests can leave, more of them can. -/
lemma Mark.Moves.cons {mark : Mark} {request : Navigation} {rest : List Navigation}
    (moves : mark.Moves rest) : mark.Moves (request :: rest) := by
  cases moves with
  | failed e => exact .failed e
  | restarted mem => exact .restarted (List.mem_cons_of_mem _ mem)
  | shown _ _ _ _ => exact .shown _ _ _ _

namespace Conversation

/-- What a conversation can be called for during a session. -/
inductive Call where
  | visit (key : Key)
  | visitRandom
  | select (s : Selection)
  | handleEvent (event : InputEvent)

/-- What can be done with a conversation; every call may be on behalf of another character. -/
inductive Operation where
  | startSession (entryKeys : List Key)
  | endSession
  | ask (npc : Npc) (call : Call)

variable {σ : Type} [Surface σ]

/-- The result of a call, the conversation after it, and the character with its new state. -/
def Call.perform (c : Conversation σ) (npc : Npc) :
    Call → Except DialogueError (Option Transition) × Conversation σ × Npc
  | .visit key => ((c.visit npc key).1.map fun _ => none, (c.visit npc key).2, npc)
  | .visitRandom => ((c.visitRandom npc).1.map fun _ => none, (c.visitRandom npc).2, npc)
  | .select s => ((c.select npc s).1.map some, (c.select npc s).2)
  | .handleEvent event => c.handleEvent npc event

/-- The conversation after an operation. -/
def Operation.apply (c : Conversation σ) : Operation → Conversation σ
  | .startSession entryKeys => c.startSession entryKeys
  | .endSession => c.endSession
  | .ask npc call => (call.perform c npc).2.1

/-- The conversation after a list of operations. -/
def run (c : Conversation σ) (ops : List Operation) : Conversation σ :=
  ops.foldl Operation.apply c

/-- The last operation is applied to the conversation that the others lead to. -/
lemma run_concat (c : Conversation σ) (ops : List Operation) (op : Operation) :
    c.run (ops ++ [op]) = op.apply (c.run ops) := by
  rw [run, List.foldl_append]
  rfl

/-- Some operations led to the conversation. -/
def Reachable (c : Conversation σ) : Prop :=
  ∃ surface collections source ops, c = (create surface collections source).run ops

/-- An operation leads from a reachable conversation to a reachable one. -/
lemma Reachable.apply {c : Conversation σ} (reachable : c.Reachable) (op : Operation) :
    (op.apply c).Reachable := by
  obtain ⟨surface, collections, source, ops, rfl⟩ := reachable
  exact ⟨surface, collections, source, ops ++ [op], (run_concat _ ops op).symm⟩

/-! ## Marks -/

/-- The mark of a visit. -/
def visitMark (c : Conversation σ) (npc : Npc) (key : Key) : Mark :=
  match c.visit npc key with
  | (.ok (), after) => .shown after.episodesStarted key (c.frontier.contains key) false
  | (.error e, _) => .failed e

/-- The mark of a visit to a random key. -/
def visitDrawnMark (c : Conversation σ) (npc : Npc) : Mark :=
  match c.visitDrawn npc with
  | (.ok key, after) => .shown after.episodesStarted key (c.frontier.contains key) true
  | (.error e, _) => .failed e

/-- The marks of requests, up to the first that fails. -/
def followMarks (c : Conversation σ) (npc : Npc) : List Navigation → List Mark
  | [] => []
  | .restart key :: rest =>
    .restarted key :: followMarks { c with frontier := c.frontier.push key } npc rest
  | .jump key :: rest =>
    c.visitMark npc key ::
      match c.visit npc key with
      | (.ok (), c) => followMarks c npc rest
      | (.error _, _) => []
  | .resume :: rest =>
    c.visitDrawnMark npc ::
      match c.visitDrawn npc with
      | (.ok _, c) => followMarks c npc rest
      | (.error _, _) => []

/-- The marks of a selection. -/
def selectMarks (c : Conversation σ) (npc : Npc) (s : Selection) : List Mark :=
  match c.accept s with
  | .ok action =>
    .accepted s.episode :: c.consumed.followMarks (npc.acted action) (action npc.state).2
  | .error violation => [.failed (.protocolViolation violation)]

/-- The marks of a call. -/
def Call.marks (c : Conversation σ) (npc : Npc) : Call → List Mark
  | .visit key => [c.visitMark npc key]
  | .visitRandom => if c.phase = .ended then [.failed .sessionEnded] else [c.visitDrawnMark npc]
  | .select s => c.selectMarks npc s
  | .handleEvent event =>
    .heard ::
      match (Surface.respond c.surface event).1 with
      | some s => (c.heard event).selectMarks npc s
      | none => []

/-- The marks of an operation. -/
def Operation.marks (c : Conversation σ) : Operation → List Mark
  | .startSession entryKeys => [.started entryKeys]
  | .endSession => [.ended]
  | .ask npc call => call.marks c npc

/-- The marks of a list of operations. -/
def history (c : Conversation σ) : List Operation → List Mark
  | [] => []
  | op :: rest => op.marks c ++ history (op.apply c) rest

/-- The mark of a visit tells of no restart. -/
lemma visitMark_moves (c : Conversation σ) (npc : Npc) (key : Key) (requests : List Navigation) :
    (c.visitMark npc key).Moves requests := by
  rw [visitMark]
  split
  · exact .shown _ _ _ _
  · exact .failed _

/-- The mark of a random visit tells of no restart. -/
lemma visitDrawnMark_moves (c : Conversation σ) (npc : Npc) (requests : List Navigation) :
    (c.visitDrawnMark npc).Moves requests := by
  rw [visitDrawnMark]
  split
  · exact .shown _ _ _ _
  · exact .failed _

/-- Requests leave no other marks than those of their moves. -/
lemma followMarks_moves {c : Conversation σ} {npc : Npc} {requests : List Navigation} {mark : Mark}
    (mem : mark ∈ c.followMarks npc requests) : mark.Moves requests := by
  induction requests generalizing c with
  | nil => cases mem
  | cons request rest ih =>
    cases request with
    | restart key =>
      obtain rfl | mem := List.mem_cons.1 mem
      · exact .restarted List.mem_cons_self
      · exact (ih mem).cons
    | jump key =>
      obtain rfl | mem := List.mem_cons.1 mem
      · exact c.visitMark_moves npc key _
      · generalize c.visit npc key = r at mem
        obtain ⟨result, c'⟩ := r
        cases result with
        | ok => exact (ih mem).cons
        | error => cases mem
    | resume =>
      obtain rfl | mem := List.mem_cons.1 mem
      · exact c.visitDrawnMark_moves npc _
      · generalize c.visitDrawn npc = r at mem
        obtain ⟨result, c'⟩ := r
        cases result with
        | ok key => exact (ih mem).cons
        | error => cases mem

/-- Selections stay within the session. -/
lemma selectMarks_inSession {c : Conversation σ} {npc : Npc} {s : Selection} {mark : Mark}
    (mem : mark ∈ c.selectMarks npc s) : mark.InSession := by
  rw [selectMarks] at mem
  split at mem
  · obtain rfl | mem := List.mem_cons.1 mem
    · exact trivial
    · exact (followMarks_moves mem).inSession
  · obtain rfl := List.mem_singleton.1 mem
    exact trivial

/-- Calls stay within the session. -/
lemma Call.marks_inSession {c : Conversation σ} {npc : Npc} {call : Call} {mark : Mark}
    (mem : mark ∈ call.marks c npc) : mark.InSession := by
  cases call with
  | visit key =>
    obtain rfl := List.mem_singleton.1 mem
    exact (c.visitMark_moves npc key []).inSession
  | visitRandom =>
    rw [Call.marks] at mem
    split at mem
    · obtain rfl := List.mem_singleton.1 mem
      exact trivial
    · obtain rfl := List.mem_singleton.1 mem
      exact (c.visitDrawnMark_moves npc []).inSession
  | select s => exact selectMarks_inSession mem
  | handleEvent event =>
    obtain rfl | mem := List.mem_cons.1 mem
    · exact trivial
    · split at mem
      · exact selectMarks_inSession mem
      · cases mem

/-! ## Steps -/

/-- The atomic steps of a conversation, with their marks. -/
inductive Step : Mark → Conversation σ → Conversation σ → Prop where
  | started {c} (entryKeys : List Key) :
    Step (.started entryKeys) c (c.startSession entryKeys)
  | ended {c} :
    Step .ended c c.endSession
  | heard {c} (event : InputEvent) :
    Step .heard c (c.heard event)
  | accepted {c s action} :
    c.accept s = .ok action →
    Step (.accepted s.episode) c c.consumed
  | failed {c} (error : DialogueError) (source : Random.Source) :
    Step (.failed error) c { c with source }
  | restarted {c} (key : Key) :
    Step (.restarted key) c { c with frontier := c.frontier.push key }
  | shown {c npc key node items} {drawn : Bool} (source : Random.Source) :
    c.phase ≠ .ended →
    (drawn = true → key ∈ c.frontier.keys) →
    npc.graph.get? key = some node →
    collect c.collections (node.offer npc.speaker).presentation = .ok items →
    Step (.shown (c.episodesStarted + 1) key (c.frontier.contains key) drawn) c
      (showing { c with source } npc key node items)

/-- Steps one after another. -/
inductive Trace : List Mark → Conversation σ → Conversation σ → Prop where
  | nil {c} :
    Trace [] c c
  | cons {c c1 c2 mark marks} :
    Step mark c c1 →
    Trace marks c1 c2 →
    Trace (mark :: marks) c c2

/-- A step is a trace. -/
lemma Step.trace {c c' : Conversation σ} {mark} (st : Step mark c c') : Trace [mark] c c' :=
  .cons st .nil

/-- Traces can be joined. -/
lemma Trace.append {c c1 c2 : Conversation σ} {marks1 marks2}
    (tr1 : Trace marks1 c c1) (tr2 : Trace marks2 c1 c2) : Trace (marks1 ++ marks2) c c2 := by
  induction tr1 with
  | nil => exact tr2
  | cons st _ ih => exact .cons st (ih tr2)

/-- What holds at first and is preserved by every step, whatever was marked before it, holds after
every trace. -/
lemma Trace.preserves_from {P : List Mark → Conversation σ → Prop}
    (step : ∀ {before mark c c'}, P before c → Step mark c c' → P (before ++ [mark]) c')
    {c c' : Conversation σ} {before marks} (tr : Trace marks c c') (first : P before c) :
    P (before ++ marks) c' := by
  -- what was marked before grows with every step, so it is not fixed in the induction
  induction tr generalizing before with
  | nil => rwa [List.append_nil]
  | @cons c c1 c2 mark marks st _ ih =>
    have next := ih (step first st)
    rwa [List.append_assoc] at next

/-- The same from a moment on before which nothing was marked. -/
lemma Trace.preserves {P : List Mark → Conversation σ → Prop}
    (step : ∀ {before mark c c'}, P before c → Step mark c c' → P (before ++ [mark]) c')
    {c c' : Conversation σ} {marks} (tr : Trace marks c c') (first : P [] c) : P marks c' :=
  tr.preserves_from step first

/-! ## Runs are traces -/

/-- A visit that fails is a failed step. -/
lemma Visit.step {c c' : Conversation σ} {npc key e} (v : Visit c npc key (.error e, c')) :
    Step (.failed e) c c' := by
  obtain ⟨source, rfl⟩ := v.error_eq
  exact .failed e source

/-- A random visit that fails is a failed step. -/
lemma VisitDrawn.step {c c' : Conversation σ} {npc e} (v : VisitDrawn c npc (.error e, c')) :
    Step (.failed e) c c' := by
  obtain ⟨source, rfl⟩ := v.error_eq
  exact .failed e source

/-- A visit is one step. -/
lemma visit_step (c : Conversation σ) (npc : Npc) (key : Key) :
    Step (c.visitMark npc key) c (c.visit npc key).2 := by
  rw [visitMark]
  have v := c.visit_inv npc key
  generalize c.visit npc key = r at v
  obtain ⟨result, c'⟩ := r
  cases result with
  | error e => exact v.step
  | ok =>
    cases v with
    | shown live found collected => exact .shown c.source live nofun found collected

/-- A random visit is one step. -/
lemma visitDrawn_step (c : Conversation σ) (npc : Npc) :
    Step (c.visitDrawnMark npc) c (c.visitDrawn npc).2 := by
  rw [visitDrawnMark]
  have v := c.visitDrawn_inv npc
  generalize c.visitDrawn npc = r at v
  obtain ⟨result, c'⟩ := r
  cases result with
  | error e => exact v.step
  | ok key =>
    cases v with
    | @shown _ source _ mem _ v =>
      cases v with
      | shown live found collected =>
        -- the draw of the key only changes the source, so it belongs to the same step
        exact .shown (c := c) source live (fun _ => mem) found collected

/-- The requests of an action are traced by their marks. -/
lemma follow_trace (c : Conversation σ) (npc : Npc) (requests : List Navigation)
    (soFar : Transition) :
    Trace (c.followMarks npc requests) c (c.follow npc requests soFar).2 := by
  induction requests generalizing c soFar with
  | nil => exact .nil
  | cons request rest ih =>
    cases request with
    | restart key => exact .cons (.restarted key) (ih _ soFar)
    | jump key =>
      have st := c.visit_step npc key
      rw [followMarks, follow]
      generalize c.visit npc key = r at st
      obtain ⟨result, c'⟩ := r
      cases result with
      | ok => exact .cons st (ih c' _)
      | error => exact st.trace
    | resume =>
      have st := c.visitDrawn_step npc
      rw [followMarks, follow]
      generalize c.visitDrawn npc = r at st
      obtain ⟨result, c'⟩ := r
      cases result with
      | ok key => exact .cons st (ih c' _)
      | error => exact st.trace

/-- A selection is traced by its marks. -/
lemma select_trace (c : Conversation σ) (npc : Npc) (s : Selection) :
    Trace (c.selectMarks npc s) c (c.select npc s).2.1 := by
  rw [selectMarks]
  cases accepted : c.accept s with
  | ok action =>
    rw [select_accepted accepted]
    exact .cons (.accepted accepted) (follow_trace _ _ _ _)
  | error violation =>
    rw [select_refused accepted]
    exact (Step.failed _ c.source).trace

/-- A call is traced by its marks. -/
lemma perform_trace (c : Conversation σ) (npc : Npc) (call : Call) :
    Trace (call.marks c npc) c (call.perform c npc).2.1 := by
  cases call with
  | visit key => exact (c.visit_step npc key).trace
  | visitRandom =>
    rw [Call.marks, Call.perform]
    obtain ⟨ended, e⟩ | ⟨live, e⟩ := c.visitRandom_inv npc
    · rw [if_pos ended, e]
      exact (Step.failed _ c.source).trace
    · rw [if_neg live, e]
      exact (c.visitDrawn_step npc).trace
  | select s => exact c.select_trace npc s
  | handleEvent event =>
    rw [Call.marks, Call.perform]
    cases reported : (Surface.respond c.surface event).1 with
    | none =>
      rw [handleEvent_silent reported]
      exact (Step.heard event).trace
    | some s =>
      rw [handleEvent_reported reported]
      exact .cons (.heard event) (select_trace _ npc s)

/-- An operation is traced by its marks. -/
lemma apply_trace (c : Conversation σ) (op : Operation) :
    Trace (op.marks c) c (op.apply c) := by
  cases op with
  | startSession entryKeys => exact (Step.started entryKeys).trace
  | endSession => exact (Step.ended (c := c)).trace
  | ask npc call => exact c.perform_trace npc call

/-- Every run is traced by its history. -/
lemma run_trace (c : Conversation σ) (ops : List Operation) :
    Trace (c.history ops) c (c.run ops) := by
  induction ops generalizing c with
  | nil => exact .nil
  | cons op rest ih => exact (c.apply_trace op).append (ih (op.apply c))

end Conversation

end Parley
