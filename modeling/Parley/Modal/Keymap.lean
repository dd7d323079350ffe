import Parley.Modal.Stack

/-!
# Layers given by tables

A keymap is a layer without a state of its own: a table tells what each gesture does.
-/

namespace Parley

/-- How tables name a gesture. -/
def InputEvent.label : InputEvent → String
  | .confirm => "confirm"
  | .cancel => "cancel"
  | .tick => "tick"
  | .number n => "number:" ++ Decimal.ofNat n
  | .key c => "key:" ++ String.singleton c

mutual

/-- A layer by its name, the line that is drawn for it, what every event leaves in the context
before its gesture is looked up, and what its gestures do. -/
inductive Keymap (C ε : Type) where
  | mk (name : String) (line : Option String) (note : C → InputEvent → C)
    (bindings : List (String × Binding C ε))

/-- What a gesture does. -/
inductive Binding (C ε : Type) where
  | stay
  | pop
  | quit
  | push (layer : Keymap C ε)
  | replace (layer : Keymap C ε)
  | fail (error : ε)
  /-- Works on the context, and fails or stays. -/
  | perform (effect : C → InputEvent → Except ε Unit × C)

end

namespace Keymap

variable {C ε : Type}

/-- The name of a keymap. -/
def name : Keymap C ε → String
  | .mk name _ _ _ => name

/-- The line that is drawn for a keymap. -/
def line : Keymap C ε → Option String
  | .mk _ line _ _ => line

/-- The context after an event was noted. -/
def note (k : Keymap C ε) : C → InputEvent → C :=
  match k with
  | .mk _ _ note _ => note

/-- What a gesture does; one that the table does not name does nothing. -/
def binding (k : Keymap C ε) (event : InputEvent) : Binding C ε :=
  match k with
  | .mk _ _ _ bindings =>
    match bindings.find? (·.1 == event.label) with
    | some (_, binding) => binding
    | none => .stay

/-- Lets a binding work on the context, and tells what flow it asks for. -/
def follow (context : C) (event : InputEvent) :
    Binding C ε → Except ε (Flow (Keymap C ε)) × C
  | .stay => (.ok .stay, context)
  | .pop => (.ok .pop, context)
  | .quit => (.ok .quit, context)
  | .push layer => (.ok (.push layer), context)
  | .replace layer => (.ok (.replace layer), context)
  | .fail error => (.error error, context)
  | .perform effect =>
    let (result, context) := effect context event
    (result.map fun _ => .stay, context)

instance : Layer (Keymap C ε) C ε where
  name := Keymap.name
  handle k context event :=
    let (flow, context) := follow (k.note context event) event (k.binding event)
    (flow, k, context)
  drawTo k context out :=
    let (result, out) := out.writeLines k.line.toList
    (result, out, k, context)

end Keymap

end Parley
