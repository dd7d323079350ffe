import Parley.Random.Source
import Parley.Surface.Page

/-!
# Policies

A policy decides what is selected where no player does. It may decline to pick, and it may pick
what the page does not offer, in which case nothing is selected.
-/

namespace Parley

/-- Decides on picks. -/
class Policy (π : Type) where
  /-- Picks something from a page, or nothing. -/
  pick : π → Page → Option Pick × π

/-- Picks each choice and each item with the same chance. -/
structure RandomPolicy where
  source : Random.Source

namespace RandomPolicy

/-- The random policy of a seed. -/
def ofSeed (seed : UInt64) : RandomPolicy := ⟨.ofSeed seed⟩

/-- The pick that a number stands for: choices first, then items. -/
def pickOf (choices n : Nat) : Pick :=
  if n < choices then .choice n else .present (n - choices)

instance : Policy RandomPolicy where
  pick p page :=
    let choices := page.choices.length
    let total := choices + page.items.length
    if total = 0 then (none, p)
    else
      let (n, source) := p.source.draw .double total
      (some (pickOf choices n), ⟨source⟩)

end RandomPolicy

/-- One step of a script, with the names that it accepts. -/
inductive ScriptStep where
  /-- Selects the first choice whose label is accepted. -/
  | choose (accepts : String → Bool)
  /-- Presents the first item whose name is accepted. -/
  | present (accepts : String → Bool)

/-- The pick of a step on a page. -/
def ScriptStep.pick? (step : ScriptStep) (page : Page) : Option Pick :=
  match step with
  | .choose accepts => (page.labels.findIdx? accepts).map .choice
  | .present accepts => (page.items.findIdx? (accepts ·.name)).map .present

/-- Follows a script, one step for each pick. A step that accepts nothing on a page is kept. -/
structure ScriptedPolicy where
  steps : List ScriptStep

instance : Policy ScriptedPolicy where
  pick p page :=
    match p.steps with
    | [] => (none, p)
    | step :: rest =>
      match step.pick? page with
      | some pick => (some pick, ⟨rest⟩)
      | none => (none, p)

/-- Hands out a list of answers in order, whatever the pages offer, and then none. -/
structure FixedPolicy where
  answers : List (Option Pick)

instance : Policy FixedPolicy where
  pick p _ :=
    match p.answers with
    | [] => (none, p)
    | answer :: rest => (answer, ⟨rest⟩)

end Parley
