import Parley.Output
import Parley.Surface.Event

/-!
# Stacks of input layers

Of the layers on a stack only the top one receives events and is drawn. A layer that is pushed
interrupts the one below, which goes on as it was when the layer above is removed.
-/

namespace Parley

/-- What a layer wants to be done after an event. -/
inductive Flow (L : Type) where
  /-- Nothing. -/
  | stay
  /-- Put another layer on top. -/
  | push (layer : L)
  /-- Remove this layer. -/
  | pop
  /-- Put another layer in the place of this one. -/
  | replace (layer : L)
  /-- End the whole program. -/
  | quit

/-- A flow with its layer, if it has one, taken to another type. -/
def Flow.map {L M : Type} (f : L → M) : Flow L → Flow M
  | .stay => .stay
  | .push layer => .push (f layer)
  | .pop => .pop
  | .replace layer => .replace (f layer)
  | .quit => .quit

/-- Layers of the type `L` over a shared context `C`, with errors of the type `ε`. -/
class Layer (L : Type) (C ε : outParam Type) where
  name : L → String
  /-- Takes an event; layer and context may change even when it fails. -/
  handle : L → C → InputEvent → Except ε (Flow L) × L × C
  /-- Draws the layer; it may change even when a write fails. -/
  drawTo : L → C → Output → Except WriteError Unit × Output × L × C

/-- What became of an event. -/
inductive Dispatch where
  | handled
  /-- There was no layer to take it. -/
  | unhandled
  | quit
deriving DecidableEq

/-- Why a stack cannot be popped. -/
inductive StackError where
  | empty
deriving DecidableEq

/-- The wording of the error. -/
def StackError.message : StackError → String
  | .empty => "cannot pop empty input stack"

/-- Layers, the top one first. -/
structure LayerStack (L : Type) where
  layers : List L

namespace LayerStack

variable {L C ε : Type}

/-- No layers. -/
def empty : LayerStack L := ⟨[]⟩

/-- Puts a layer on top. -/
def push (s : LayerStack L) (layer : L) : LayerStack L := ⟨layer :: s.layers⟩

/-- Removes the top layer. -/
def pop (s : LayerStack L) : Except StackError (L × LayerStack L) :=
  match s.layers with
  | [] => .error .empty
  | top :: below => .ok (top, ⟨below⟩)

/-- The number of layers. -/
def depth (s : LayerStack L) : Nat := s.layers.length

/-- Whether there are no layers. -/
def isEmpty (s : LayerStack L) : Bool := s.layers.isEmpty

/-- Whether the host has to wait: as long as there is a layer. -/
def isLocked (s : LayerStack L) : Bool := !s.isEmpty

/-- The name of the top layer. -/
def active [Layer L C ε] (s : LayerStack L) : Option String := s.layers.head?.map Layer.name

/-- The stack after a flow that its top layer asked for. -/
def follow (top : L) (below : List L) : Flow L → Dispatch × LayerStack L
  | .stay => (.handled, ⟨top :: below⟩)
  | .push next => (.handled, ⟨next :: top :: below⟩)
  | .pop => (.handled, ⟨below⟩)
  | .replace next => (.handled, ⟨next :: below⟩)
  | .quit => (.quit, ⟨top :: below⟩)

/-- Hands an event to the top layer and does what it asks for. A layer that fails is removed. -/
def dispatch [Layer L C ε] (s : LayerStack L) (context : C) (event : InputEvent) :
    Except ε Dispatch × LayerStack L × C :=
  match s.layers with
  | [] => (.ok .unhandled, s, context)
  | top :: below =>
    match Layer.handle top context event with
    | (.ok flow, top, context) =>
      let (dispatch, s) := follow top below flow
      (.ok dispatch, s, context)
    | (.error e, _, context) => (.error e, ⟨below⟩, context)

/-- Draws the top layer. It stays on the stack even when a write fails. -/
def drawTo [Layer L C ε] (s : LayerStack L) (context : C) (out : Output) :
    Except WriteError Unit × Output × LayerStack L × C :=
  match s.layers with
  | [] => (.ok (), out, s, context)
  | top :: below =>
    let (result, out, top, context) := Layer.drawTo top context out
    (result, out, ⟨top :: below⟩, context)

/-- Draws the top layer in memory, where no write fails. -/
def draw [Layer L C ε] (s : LayerStack L) (context : C) : String × LayerStack L × C :=
  let (_, out, s, context) := s.drawTo context .memory
  (out.text, s, context)

end LayerStack

end Parley
