import Mathlib.Tactic.Lemma
import Parley.Scenario.Script

/-!
# Steps of scripted actions

A list of steps does to the state what its steps do one after the other, and requests what they
request, in order (`Step.run_eq`). The steps for an item are those of the first case that names it
(`ScriptPresentation.stepsFor_cases`).
-/

namespace Parley

/-- The steps change the state one after the other, and their requests keep their order. -/
lemma Step.run_eq (steps : List Step) (s : State) :
    Step.run steps s = (steps.foldl Step.apply s, steps.filterMap Step.request?) := by
  induction steps generalizing s with
  | nil => rfl
  | cons step rest ih =>
    rw [Step.run, ih]
    cases step <;> rfl

/-- The case that counts for an item is the first that names it; if none does, the other steps
count. -/
lemma ScriptPresentation.stepsFor_cases (p : ScriptPresentation) (item : Item) :
    (∃ before found after, p.cases = before ++ found :: after ∧ found.item = item ∧
      (∀ other ∈ before, other.item ≠ item) ∧ p.stepsFor item = found.steps) ∨
    ((∀ other ∈ p.cases, other.item ≠ item) ∧ p.stepsFor item = p.otherwise) := by
  rw [stepsFor]
  cases found : p.cases.find? (·.item == item) with
  | some case =>
    obtain ⟨named, before, after, split, unnamed⟩ := List.find?_eq_some_iff_append.1 found
    refine .inl ⟨before, case, after, split, eq_of_beq named, fun other mem => ?_, rfl⟩
    have differs := unnamed other mem
    simpa using differs
  | none =>
    refine .inr ⟨fun other mem => ?_, rfl⟩
    have differs := List.find?_eq_none.1 found other mem
    simpa using differs

end Parley
