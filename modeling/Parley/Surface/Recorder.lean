import Parley.Surface.Basic

/-!
# Recorders

A surface that keeps the page and counts how often it was reset, and never selects anything.
-/

namespace Parley

/-- A page and the number of resets. -/
structure Recorder where
  page : Page
  resets : Nat
deriving DecidableEq

namespace Recorder

/-- A recorder that was never reset. -/
def blank : Recorder := ⟨.empty, 0⟩

instance : Surface Recorder where
  page := Recorder.page
  reset r := ⟨.empty, r.resets + 1⟩
  addText r text := { r with page := r.page.addText text }
  addChoice r label handle := { r with page := r.page.addChoice label handle }
  addPresent r items handle := { r with page := r.page.setPresent items handle }
  respond r _ := (none, r)

end Recorder

end Parley
