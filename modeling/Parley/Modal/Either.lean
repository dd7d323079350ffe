import Parley.Modal.Stack

/-!
# Layers of two kinds

Two types of layers over one context make one type of layers.
-/

namespace Parley

variable {A B C ε : Type}

instance [Layer A C ε] [Layer B C ε] : Layer (A ⊕ B) C ε where
  name
    | .inl a => Layer.name a
    | .inr b => Layer.name b
  handle
    | .inl a, context, event =>
      let (flow, a, context) := Layer.handle a context event
      (flow.map (Flow.map .inl), .inl a, context)
    | .inr b, context, event =>
      let (flow, b, context) := Layer.handle b context event
      (flow.map (Flow.map .inr), .inr b, context)
  drawTo
    | .inl a, context, out =>
      let (result, out, a, context) := Layer.drawTo a context out
      (result, out, .inl a, context)
    | .inr b, context, out =>
      let (result, out, b, context) := Layer.drawTo b context out
      (result, out, .inr b, context)

end Parley
