import Mathlib.Data.List.DropRight
import Mathlib.Tactic.Lemma
import Parley.Text.Blank

/-!
# Blanks around a text

A text is some blanks, a part without a blank at its ends, and blanks again, and there is one such
part (`stripped_iff`). So more blanks around a text do not change it (`trim_surrounded`).
-/

namespace Parley.Text

/-- The second text is the first one without the blanks around it. -/
def Stripped (cs t : List Char) : Prop :=
  ∃ left right, cs = left ++ t ++ right ∧
    (∀ c ∈ left, isBlank c = true) ∧ (∀ c ∈ right, isBlank c = true) ∧
    (∀ c ∈ t.head?, isBlank c = false) ∧ (∀ c ∈ t.getLast?, isBlank c = false)

variable {cs t left right : List Char}

/-- Blanks are taken away in front and then at the end. -/
lemma trim_eq (cs : List Char) : trim cs = (cs.dropWhile isBlank).rdropWhile isBlank := rfl

/-- Blanks around a text are of no account. -/
lemma trim_surrounded (before : ∀ c ∈ left, isBlank c = true)
    (behind : ∀ c ∈ right, isBlank c = true) : trim (left ++ cs ++ right) = trim cs := by
  have passed : right.reverse.dropWhile isBlank = [] :=
    List.dropWhile_eq_nil_iff.2 fun c mem => behind c (List.mem_reverse.1 mem)
  rw [trim, trim, List.append_assoc, List.dropWhile_append_of_pos before, List.dropWhile_append]
  split
  · next all =>
    rw [List.dropWhile_eq_nil_iff.2 behind, List.isEmpty_iff.1 all]
  · rw [List.reverse_append, List.dropWhile_append, passed, List.isEmpty_nil, if_pos rfl]

/-- A text without a blank at its ends stays as it is. -/
lemma trim_eq_self (first : ∀ c ∈ t.head?, isBlank c = false)
    (last : ∀ c ∈ t.getLast?, isBlank c = false) : trim t = t := by
  have front : t.dropWhile isBlank = t := by
    cases t with
    | nil => rfl
    | cons c rest => exact List.dropWhile_cons_of_neg (Bool.not_eq_true _ ▸ first c rfl)
  rw [trim_eq, front, List.rdropWhile_eq_self_iff]
  intro some
  rw [Bool.not_eq_true]
  exact last _ (List.getLast_mem_getLast? some)

/-- What is left has no blank at its ends. -/
lemma stripped_trim (cs : List Char) : Stripped cs (trim cs) := by
  have split : trim cs ++ (cs.dropWhile isBlank).rtakeWhile isBlank = cs.dropWhile isBlank := by
    rw [trim_eq, List.rdropWhile_append_rtakeWhile]
  refine ⟨cs.takeWhile isBlank, (cs.dropWhile isBlank).rtakeWhile isBlank, ?_, ?_, ?_, ?_, ?_⟩
  · rw [List.append_assoc, split, List.takeWhile_append_dropWhile]
  · exact fun c mem => List.mem_takeWhile_imp mem
  · exact fun c mem => List.mem_rtakeWhile_imp mem
  · intro c first
    have front : (cs.dropWhile isBlank).head? = some c := by
      rw [← split, List.head?_append, Option.mem_def.1 first]
      rfl
    have unblank := List.head?_dropWhile_not isBlank cs
    rw [front] at unblank
    simpa using unblank
  · intro c last
    obtain ⟨some, rfl⟩ := List.mem_getLast?_eq_getLast last
    rw [← Bool.not_eq_true]
    exact List.rdropWhile_last_not isBlank _ some

/-- Every text has one part without the blanks around it. -/
lemma stripped_iff : Stripped cs t ↔ t = trim cs := by
  constructor
  · rintro ⟨left, right, rfl, before, behind, first, last⟩
    rw [trim_surrounded before behind, trim_eq_self first last]
  · rintro rfl
    exact stripped_trim cs

/-- A change of characters that makes and removes no blank changes the part without the blanks. -/
lemma trim_map {f : Char → Char} (keeps : ∀ c, isBlank (f c) = isBlank c) (cs : List Char) :
    trim (cs.map f) = (trim cs).map f := by
  have same : isBlank ∘ f = isBlank := funext keeps
  rw [trim, trim, List.dropWhile_map, same, ← List.map_reverse, List.dropWhile_map, same,
    List.map_reverse]

end Parley.Text
