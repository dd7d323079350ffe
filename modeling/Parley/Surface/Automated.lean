import Parley.Surface.Basic
import Parley.Surface.Policy

/-!
# Automated surfaces

A surface on which a policy selects, at every event. Nothing is drawn; the page is kept, and so is
the pick behind the last selection until it is taken.
-/

namespace Parley

/-- A surface with a policy in the place of a player. -/
structure Automated (π : Type) where
  page : Page
  policy : π
  /-- Whether a selection was reported since the last reset. -/
  spent : Bool
  /-- The pick behind the last selection, if it was not taken. -/
  lastPick : Option Pick

namespace Automated

variable {π : Type}

/-- A surface that shows nothing yet. -/
def blank (policy : π) : Automated π := ⟨.empty, policy, false, none⟩

/-- Lets the policy pick, unless a selection was reported already. -/
def respond [Policy π] (a : Automated π) : Option Selection × Automated π :=
  if a.spent then (none, a)
  else
    let (pick, policy) := Policy.pick a.policy a.page
    let a := { a with policy }
    match pick with
    | none => (none, a)
    | some pick =>
      match a.page.selectionFor pick with
      | none => (none, a)
      | some selection => (some selection, { a with spent := true, lastPick := some pick })

instance [Policy π] : Surface (Automated π) where
  page := Automated.page
  reset a := { a with page := .empty, spent := false }
  addText a text := { a with page := a.page.addText text }
  addChoice a label handle := { a with page := a.page.addChoice label handle }
  addPresent a items handle := { a with page := a.page.setPresent items handle }
  respond a _ := a.respond

/-- Takes the pick behind the last selection; it is there only once. -/
def takePick (a : Automated π) : Option Pick × Automated π :=
  (a.lastPick, { a with lastPick := none })

end Automated

end Parley
