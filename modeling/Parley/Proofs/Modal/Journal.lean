import Mathlib.Data.List.Induction
import Mathlib.Tactic.Lemma
import Parley.Modal.Stack

/-!
# Observed layers

A host drives a stack of layers by operations; `run` is the stack and the context after a list of
them. To tell which layers are called meanwhile, layers of any kind can be observed: an observed
layer (`Placed`) does what it does otherwise, and a journal beside the context takes down that it
was called, and what it answered.

Each layer goes by a number. It is the place in the journal of the entry that tells how the layer
got on the stack, so a layer that is put on the stack again goes by another number.

A stack of observed layers is a stack like any other, and `observed` is such a stack after a list of
operations. For the layers it makes no difference (`plain_observed`). The whole of what an operation
can do to the stack and the journal is in `Moves` (`observe_inv`).
-/

namespace Parley.LayerStack

/-- A layer, and the number that it goes by. -/
structure Placed (L : Type) where
  number : Nat
  layer : L

/-- What a journal tells. -/
inductive Entry (ε : Type) where
  /-- The host put a layer on the stack. -/
  | placed
  /-- The host took a layer from the stack. -/
  | removed (number : Nat)
  /-- A layer was called for an event, and answered. -/
  | called (number : Nat) (event : InputEvent) (answer : Except ε (Flow Unit))
  /-- A layer was drawn. -/
  | drawn (number : Nat)

/-- A context with a journal beside it. -/
structure Observed (C ε : Type) where
  context : C
  journal : List (Entry ε)

/-- The context with one more entry in the journal. -/
def Observed.note {C ε : Type} (o : Observed C ε) (entry : Entry ε) : Observed C ε :=
  { o with journal := o.journal ++ [entry] }

namespace Entry

variable {ε : Type}

/-- The layer that an entry is about; a layer that the host puts on the stack is not called. -/
def number? : Entry ε → Option Nat
  | .placed => none
  | .removed number | .called number _ _ | .drawn number => some number

/-- Whether a layer is put on the stack. -/
def places : Entry ε → Bool
  | .placed | .called _ _ (.ok (.push _)) | .called _ _ (.ok (.replace _)) => true
  | _ => false

/-- Whether the layer that the entry is about leaves the stack. -/
def removes : Entry ε → Bool
  | .removed _ | .called _ _ (.ok .pop) | .called _ _ (.ok (.replace _))
  | .called _ _ (.error _) => true
  | _ => false

end Entry

section

variable {L C ε : Type} [Layer L C ε]

/-- What a layer answers to an event, without the layer that it may ask for. -/
def Placed.answer (p : Placed L) (context : C) (event : InputEvent) : Except ε (Flow Unit) :=
  (Layer.handle p.layer context event).1.map (Flow.map fun _ => ())

instance : Layer (Placed L) (Observed C ε) ε where
  name p := Layer.name p.layer
  handle p o event :=
    let (answer, layer, context) := Layer.handle p.layer o.context event
    (answer.map (Flow.map (Placed.mk o.journal.length)), { p with layer },
      { o with context }.note (.called p.number event (p.answer o.context event)))
  drawTo p o out :=
    let (result, out, layer, context) := Layer.drawTo p.layer o.context out
    (result, out, { p with layer }, { o with context }.note (.drawn p.number))

end

/-- What a host can do with a stack. -/
inductive Operation (L : Type) where
  | push (layer : L)
  | pop
  | dispatch (event : InputEvent)
  | draw (out : Output)

/-- A stack, and the context that its layers share. -/
structure Stage (L C : Type) where
  stack : LayerStack L
  context : C

variable {L C ε : Type} [Layer L C ε]

/-- Stack and context after an operation. -/
def Operation.apply (s : Stage L C) : Operation L → Stage L C
  | .push layer => { s with stack := s.stack.push layer }
  | .pop =>
    match s.stack.pop with
    | .ok (_, stack) => { s with stack }
    | .error _ => s
  | .dispatch event =>
    let (_, stack, context) := s.stack.dispatch s.context event
    ⟨stack, context⟩
  | .draw out =>
    let (_, _, stack, context) := s.stack.drawTo s.context out
    ⟨stack, context⟩

/-- A stack without layers after a list of operations. -/
def run (context : C) (ops : List (Operation L)) : Stage L C :=
  ops.foldl Operation.apply ⟨empty, context⟩

/-- Observed layers and their journal after an operation. What the host itself puts on the stack or
takes from it, it takes down. -/
def Operation.observe (s : Stage (Placed L) (Observed C ε)) :
    Operation L → Stage (Placed L) (Observed C ε)
  | .push layer => ⟨s.stack.push ⟨s.context.journal.length, layer⟩, s.context.note .placed⟩
  | .pop =>
    match s.stack.pop with
    | .ok (top, stack) => ⟨stack, s.context.note (.removed top.number)⟩
    | .error _ => s
  | .dispatch event => Operation.apply s (.dispatch event)
  | .draw out => Operation.apply s (.draw out)

/-- A stack without layers after a list of operations, all its layers observed. -/
def observed (context : C) (ops : List (Operation L)) : Stage (Placed L) (Observed C ε) :=
  ops.foldl Operation.observe ⟨empty, context, []⟩

/-- The layers as they are without being observed. -/
def Stage.plain (s : Stage (Placed L) (Observed C ε)) : Stage L C :=
  ⟨⟨s.stack.layers.map Placed.layer⟩, s.context.context⟩

/-- The numbers of the layers on a stack, the top one first. -/
def Stage.numbers (s : Stage (Placed L) (Observed C ε)) : List Nat :=
  s.stack.layers.map Placed.number

/-- The journal of observed layers. -/
def Stage.journal (s : Stage (Placed L) (Observed C ε)) : List (Entry ε) := s.context.journal

omit [Layer L C ε] in
/-- Taking the numbers off the layers leaves the depth as it is. -/
@[simp] lemma Stage.depth_plain (s : Stage (Placed L) (Observed C ε)) :
    s.plain.stack.depth = s.stack.depth :=
  List.length_map _

/-- The last operation is applied to the stack that the others lead to. -/
lemma run_concat (context : C) (ops : List (Operation L)) (op : Operation L) :
    run context (ops ++ [op]) = op.apply (run context ops) := by
  rw [run, List.foldl_append]
  rfl

/-- The last operation is watched after the others. -/
lemma observed_concat (context : C) (ops : List (Operation L)) (op : Operation L) :
    observed context (ops ++ [op]) = op.observe (observed context ops) := by
  rw [observed, List.foldl_append]
  rfl

/-! ## Being observed makes no difference -/

/-- A dispatch has the same outcome for plain layers. -/
lemma dispatch_plain (s : Stage (Placed L) (Observed C ε)) (event : InputEvent) :
    (s.stack.dispatch s.context event).1 = (s.plain.stack.dispatch s.plain.context event).1 ∧
      (Operation.observe s (.dispatch event)).plain =
        Operation.apply s.plain (.dispatch event) := by
  obtain ⟨⟨_ | ⟨top, below⟩⟩, context, journal⟩ := s
  · exact ⟨rfl, rfl⟩
  · simp only [Operation.observe, Operation.apply, Stage.plain, dispatch, List.map_cons,
      Layer.handle]
    cases Layer.handle top.layer context event with
    | mk answer rest =>
      cases answer with
      | error e => exact ⟨rfl, rfl⟩
      | ok flow => cases flow <;> exact ⟨rfl, rfl⟩

/-- An operation does the same to a stack whether it is watched or not. -/
lemma plain_observe (s : Stage (Placed L) (Observed C ε)) (op : Operation L) :
    (op.observe s).plain = op.apply s.plain := by
  cases op with
  | push layer => rfl
  | pop =>
    obtain ⟨⟨_ | ⟨top, below⟩⟩, context⟩ := s <;> rfl
  | dispatch event => exact (dispatch_plain s event).2
  | draw out =>
    obtain ⟨⟨_ | ⟨top, below⟩⟩, context⟩ := s <;> rfl

/-- Observed layers do what they do otherwise. -/
lemma plain_observed (context : C) (ops : List (Operation L)) :
    (observed context ops).plain = run context ops := by
  induction ops using List.reverseRecOn with
  | nil => rfl
  | append_singleton ops op ih => rw [observed_concat, run_concat, plain_observe, ih]

/-! ## What an operation can do -/

/-- How an entry that is taken down at the moment `now` changes the upper end of a stack: what is on
the left is replaced by what is on the right, with all that is below left alone. -/
inductive Moves (now : Nat) : List (Placed L) → Entry ε → List (Placed L) → Prop where
  | placed layer :
    Moves now [] .placed [⟨now, layer⟩]
  | removed top :
    Moves now [top] (.removed top.number) []
  | drawn top layer :
    Moves now [top] (.drawn top.number) [{ top with layer }]
  | stayed top layer event :
    Moves now [top] (.called top.number event (.ok .stay)) [{ top with layer }]
  | pushed top layer event next :
    Moves now [top] (.called top.number event (.ok (.push ()))) [⟨now, next⟩, { top with layer }]
  | popped top event :
    Moves now [top] (.called top.number event (.ok .pop)) []
  | replaced top event next :
    Moves now [top] (.called top.number event (.ok (.replace ()))) [⟨now, next⟩]
  | quit top layer event :
    Moves now [top] (.called top.number event (.ok .quit)) [{ top with layer }]
  | failed top event e :
    Moves now [top] (.called top.number event (.error e)) []

/-- A dispatch calls the layer on top, and nothing else. -/
lemma dispatch_inv {s : Stage (Placed L) (Observed C ε)} {top : Placed L} {below : List (Placed L)}
    (layers : s.stack.layers = top :: below) (event : InputEvent) :
    ∃ above, Moves s.journal.length [top]
        (.called top.number event (top.answer s.context.context event)) above ∧
      (Operation.observe s (.dispatch event)).stack.layers = above ++ below ∧
      (Operation.observe s (.dispatch event)).journal =
        s.journal ++ [.called top.number event (top.answer s.context.context event)] ∧
      (s.stack.dispatch s.context event).1 ≠ .ok .unhandled := by
  obtain ⟨⟨_ | ⟨top', below'⟩⟩, context, journal⟩ := s
  · cases layers
  · cases layers
    simp only [Operation.observe, Operation.apply, dispatch, Layer.handle, Placed.answer]
    -- one case for each answer of the layer, as in `LayerStack.dispatch`
    cases Layer.handle top.layer context event with
    | mk answer rest =>
      cases answer with
      | error e => exact ⟨_, .failed top event e, rfl, rfl, nofun⟩
      | ok flow =>
        cases flow with
        | stay => exact ⟨_, .stayed top rest.1 event, rfl, rfl, nofun⟩
        | push next => exact ⟨_, .pushed top rest.1 event next, rfl, rfl, nofun⟩
        | pop => exact ⟨_, .popped top event, rfl, rfl, nofun⟩
        | replace next => exact ⟨_, .replaced top event next, rfl, rfl, nofun⟩
        | quit => exact ⟨_, .quit top rest.1 event, rfl, rfl, nofun⟩

/-- An operation does nothing, or one entry is taken down and moves the upper end of the stack. -/
lemma observe_inv (s : Stage (Placed L) (Observed C ε)) (op : Operation L) :
    op.observe s = s ∨
      ∃ entry above above' below, Moves s.journal.length above entry above' ∧
        s.stack.layers = above ++ below ∧ (op.observe s).stack.layers = above' ++ below ∧
        (op.observe s).journal = s.journal ++ [entry] := by
  cases op with
  | push layer => exact .inr ⟨_, _, _, _, .placed layer, rfl, rfl, rfl⟩
  | pop =>
    obtain ⟨⟨_ | ⟨top, below⟩⟩, context⟩ := s
    · exact .inl rfl
    · exact .inr ⟨_, _, _, _, .removed top, rfl, rfl, rfl⟩
  | dispatch event =>
    cases layers : s.stack.layers with
    | nil =>
      obtain ⟨⟨_⟩, context⟩ := s
      cases layers
      exact .inl rfl
    | cons top below =>
      obtain ⟨above, moves, after, journal, _⟩ := dispatch_inv layers event
      exact .inr ⟨_, _, _, _, moves, rfl, after, journal⟩
  | draw out =>
    obtain ⟨⟨_ | ⟨top, below⟩⟩, context⟩ := s
    · exact .inl rfl
    · exact .inr ⟨_, _, _, _, .drawn top _, rfl, rfl, rfl⟩

end Parley.LayerStack
