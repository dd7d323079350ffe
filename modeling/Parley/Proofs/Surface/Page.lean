import Mathlib.Tactic.Lemma
import Parley.Surface.Page

/-!
# Options of a page

A pick is offered by a page if and only if there is a choice, or an item that can be presented, at
its place; the selection is then the one of that choice or item.
-/

namespace Parley.Page

variable {p : Page} {index : Nat} {s : Selection}

/-- A page with nothing on it offers nothing. -/
lemma selectionFor_empty (pick : Pick) : Page.empty.selectionFor pick = none := by
  cases pick <;> rfl

/-- A choice is offered with its own handle. -/
lemma selectionFor_choice_iff :
    p.selectionFor (.choice index) = some s ↔
      ∃ label handle, p.choices[index]? = some (label, handle) ∧ s = .choice handle := by
  rw [selectionFor, Option.map_eq_some_iff]
  constructor
  · rintro ⟨⟨label, handle⟩, found, rfl⟩
    exact ⟨label, handle, found, rfl⟩
  · rintro ⟨label, handle, found, rfl⟩
    exact ⟨_, found, rfl⟩

/-- An item is offered with the handle of the presentation. -/
lemma selectionFor_present_iff :
    p.selectionFor (.present index) = some s ↔
      ∃ items handle item, p.present = some (items, handle) ∧ items[index]? = some item ∧
        s = .present handle item := by
  rw [selectionFor]
  cases presents : p.present with
  | none => simp
  | some listed =>
    obtain ⟨items, handle⟩ := listed
    dsimp only
    rw [Option.map_eq_some_iff]
    constructor
    · rintro ⟨item, found, rfl⟩
      exact ⟨items, handle, item, rfl, found, rfl⟩
    · rintro ⟨_, _, item, ⟨⟩, found, rfl⟩
      exact ⟨item, found, rfl⟩

/-- The items of a page are those of its presentation. -/
lemma items_of_present {items : List Item} {handle : PresentHandle}
    (presents : p.present = some (items, handle)) : p.items = items := by
  rw [Page.items, presents]
  rfl

/-- An item that is offered is on the list. -/
lemma getElem?_items_of_offered (offered : p.selectionFor (.present index) = some s) :
    ∃ handle item, p.items[index]? = some item ∧ s = .present handle item := by
  obtain ⟨items, handle, item, presents, found, rfl⟩ := selectionFor_present_iff.1 offered
  refine ⟨handle, item, ?_, rfl⟩
  rwa [items_of_present presents]

/-- An item can be picked only from a list of items. -/
lemma listed_of_offered (offered : p.selectionFor (.present index) = some s) :
    p.present.isSome ∧ index < p.items.length := by
  obtain ⟨_, _, found, _⟩ := getElem?_items_of_offered offered
  obtain ⟨_, _, _, presents, _⟩ := selectionFor_present_iff.1 offered
  exact ⟨by rw [presents]; rfl, (List.getElem?_eq_some_iff.1 found).1⟩

/-- Every item on the list is offered. -/
lemma offered_of_getElem?_items {item : Item} (found : p.items[index]? = some item) :
    ∃ handle, p.selectionFor (.present index) = some (.present handle item) := by
  cases presents : p.present with
  | none =>
    rw [items, presents] at found
    cases found
  | some listed =>
    obtain ⟨items, handle⟩ := listed
    rw [items_of_present presents] at found
    exact ⟨handle, selectionFor_present_iff.2 ⟨items, handle, item, presents, found, rfl⟩⟩

end Parley.Page
