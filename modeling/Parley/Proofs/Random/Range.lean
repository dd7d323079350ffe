import Mathlib.Tactic.Lemma
import Parley.Random.Source

/-!
# The range of random draws

A draw below `n` is below `n`, however many attempts it took (`draw_lt`), so a random choice fails
on the empty list only and gives an element otherwise (`choose_mem`).
-/

namespace Parley.Random.Source

/-- The next number fits its width. -/
lemma next_lt (width : Width) (s : Source) : (s.next width).1 < width.count := by
  cases width with
  | single => exact (word s.key s.position).toNat_lt
  | double =>
    have low : (word s.key s.position).toNat < 4294967296 := UInt32.toNat_lt _
    have high : (word s.key (s.position + 1)).toNat < 4294967296 := UInt32.toNat_lt _
    show (word s.key s.position).toNat + 4294967296 * (word s.key (s.position + 1)).toNat
      < 18446744073709551616
    omega

/-- The upper half of the product of a number and `n` is below `n`. -/
lemma scaled_lt {width : Width} {v n : Nat} (fits : v < width.count) (pos : 0 < n) :
    v * n / width.count < n :=
  Nat.div_lt_of_lt_mul (Nat.mul_lt_mul_of_pos_right fits pos)

/-- A draw is in range after any number of attempts. -/
lemma drawWithin_lt {width : Width} {n : Nat} (pos : 0 < n) (attempts : Nat) (s : Source) :
    (drawWithin width n attempts s).1 < n := by
  induction attempts generalizing s with
  | zero => exact scaled_lt (next_lt width s) pos
  | succ attempts ih =>
    rw [drawWithin]
    dsimp only
    split
    · exact scaled_lt (next_lt width s) pos
    · exact ih _

/-- A draw below `n` is below `n`. -/
lemma draw_lt {n : Nat} (pos : 0 < n) (width : Width) (s : Source) : (s.draw width n).1 < n :=
  drawWithin_lt pos 1000 s

/-- A list that is not empty has a random element. -/
lemma choose_mem {α : Type} {xs : List α} (nonempty : xs ≠ []) (width : Width) (s : Source) :
    ∃ x ∈ xs, (s.choose width xs).1 = some x := by
  have inside : (s.draw width xs.length).1 < xs.length :=
    draw_lt (List.length_pos_iff.2 nonempty) width s
  refine ⟨xs[(s.draw width xs.length).1], List.getElem_mem inside, ?_⟩
  rw [choose, if_neg (by simpa using nonempty)]
  exact List.getElem?_eq_getElem inside

/-- Of a list with one element that one is drawn. -/
lemma choose_singleton {α : Type} (width : Width) (x : α) (s : Source) :
    s.choose width [x] = (some x, (s.draw width 1).2) := by
  obtain ⟨y, mem, chosen⟩ := choose_mem (List.cons_ne_nil x []) width s
  rw [List.mem_singleton.1 mem] at chosen
  exact Prod.ext chosen rfl

end Parley.Random.Source
