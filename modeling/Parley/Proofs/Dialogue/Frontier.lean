import Mathlib.Data.List.InsertIdx
import Mathlib.Tactic.Lemma
import Parley.Dialogue.Frontier

/-!
# Putting keys back

A key that was taken out of a frontier can be put back by its place alone, however often it occurs:
what was taken out is its first occurrence, and the keys behind it make room again.
-/

namespace Parley.Frontier

/-- Taking a key out shortens the frontier at the place where it occurs first. -/
lemma remove_eq (f : Frontier) (key : Key) :
    f.remove key = match f.position? key with
      | some index => ⟨f.keys.eraseIdx index⟩
      | none => f := by
  have same : f.position? key = f.keys.idxOf? key := rfl
  rw [remove, List.erase_eq_eraseIdx, same]
  cases f.keys.idxOf? key with
  | none => rfl
  | some index => rfl

/-- At the place that is found for a key stands that key. -/
lemma position?_eq_some {f : Frontier} {key : Key} {index : Nat}
    (found : f.position? key = some index) :
    ∃ inside : index < f.keys.length, f.keys[index] = key := by
  obtain ⟨inside, same, _⟩ := List.findIdx?_eq_some_iff_getElem.1 found
  exact ⟨inside, eq_of_beq same⟩

/-- A key that is put back where it was taken out leaves the frontier as it was. -/
lemma restore_remove (f : Frontier) (key : Key) :
    (f.remove key).restore key (f.position? key) = f := by
  rw [remove_eq]
  cases found : f.position? key with
  | none => rfl
  | some index =>
    obtain ⟨inside, same⟩ := position?_eq_some found
    have room : index ≤ (f.keys.eraseIdx index).length := by
      rw [List.length_eraseIdx_of_lt inside]
      omega
    have back := List.insertIdx_eraseIdx_getElem inside
    rw [same] at back
    show Frontier.mk ((f.keys.eraseIdx index).insertIdx (min index _) key) = f
    rw [Nat.min_eq_left room, back]

end Parley.Frontier
