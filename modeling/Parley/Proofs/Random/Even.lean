import Mathlib.Order.Interval.Finset.Nat
import Parley.Proofs.Random.Range

/-!
# Even draws

A draw below `n` repeats itself for some numbers of its stream and keeps the others. Of those that
are kept, equally many lead to each result (`card_keptFor`), so that a draw favours none.
-/

namespace Parley.Random.Source

variable {width : Width} {n k v : Nat}

/-- The numbers of a width that a draw below `n` keeps and that give `k`. -/
def keptFor (width : Width) (n k : Nat) : Finset Nat :=
  {v ∈ Finset.range width.count |
    v * n % width.count ≤ zone width n ∧ v * n / width.count = k}

/-- How many numbers of a width give the same result of a draw below `n`. -/
def share (width : Width) (n : Nat) : Nat := 2 ^ (width.bits - 1 - n.log2)

/-- The numbers of a width are as many as its bits can write. -/
lemma count_eq (width : Width) : width.count = 2 ^ width.bits := by
  cases width <;> rfl

/-- The numbers that a draw keeps are the shares of all results together. -/
lemma zone_eq (width : Width) (n : Nat) : zone width n = n * share width n - 1 := by
  rw [zone, Nat.shiftLeft_eq, share]

/-- All shares together fit the width. -/
lemma mul_share_le (pos : 0 < n) (fits : n < width.count) : n * share width n ≤ width.count := by
  rw [count_eq] at fits ⊢
  have small : n.log2 < width.bits := (Nat.log2_lt (Nat.ne_of_gt pos)).2 fits
  have whole : n.log2 + 1 + (width.bits - 1 - n.log2) = width.bits := by omega
  calc n * share width n
      ≤ 2 ^ (n.log2 + 1) * share width n := Nat.mul_le_mul_right _ Nat.lt_log2_self.le
    _ = 2 ^ width.bits := by rw [share, ← Nat.pow_add, whole]

/-- The numbers that are kept for a result are those whose product with `n` lies in an interval. -/
lemma mem_keptFor (below : k < n) (fits : n < width.count) :
    v ∈ keptFor width n k ↔
      k * width.count ≤ v * n ∧ v * n < k * width.count + n * share width n := by
  have pos : 0 < n := Nat.zero_lt_of_lt below
  have total : n * share width n ≤ width.count := mul_share_le pos fits
  have some_share : 0 < n * share width n := Nat.mul_pos pos (Nat.pow_pos (by decide))
  have count_pos : 0 < width.count := Nat.zero_lt_of_lt fits
  have split : width.count * (v * n / width.count) + v * n % width.count = v * n :=
    Nat.div_add_mod ..
  have inside : v * n % width.count < width.count := Nat.mod_lt _ count_pos
  rw [keptFor, Finset.mem_filter, Finset.mem_range, zone_eq]
  constructor
  · rintro ⟨_, kept, rfl⟩
    rw [Nat.mul_comm (v * n / width.count)]
    omega
  · rintro ⟨least, most⟩
    have result : v * n / width.count = k := by
      refine Nat.div_eq_of_lt_le least ?_
      rw [Nat.succ_mul]
      omega
    rw [result, Nat.mul_comm] at split
    have bounded : v * n < width.count * n := by
      have room : (k + 1) * width.count ≤ n * width.count := Nat.mul_le_mul_right _ below
      rw [Nat.succ_mul] at room
      rw [Nat.mul_comm width.count]
      omega
    exact ⟨Nat.lt_of_mul_lt_mul_right bounded, by omega, result⟩

/-- Every result of a draw below `n` is given by equally many of the numbers that are kept. -/
lemma card_keptFor (below : k < n) (fits : n < width.count) :
    (keptFor width n k).card = share width n := by
  have pos : 0 < n := Nat.zero_lt_of_lt below
  -- the first number whose product reaches the interval; the products are `n` apart
  obtain ⟨first, reaches⟩ : ∃ first, ∀ v, first ≤ v ↔ k * width.count ≤ v * n := by
    refine ⟨(k * width.count + (n - 1)) / n, fun v => ?_⟩
    rw [← Nat.lt_succ_iff, Nat.div_lt_iff_lt_mul pos, Nat.succ_mul]
    omega
  have interval : keptFor width n k = Finset.Ico first (first + share width n) := by
    ext v
    rw [mem_keptFor below fits, Finset.mem_Ico, ← reaches, Nat.mul_comm n]
    refine and_congr_right fun _ => ?_
    by_cases early : v < share width n
    · have product : v * n < share width n * n := Nat.mul_lt_mul_of_pos_right early pos
      omega
    · obtain ⟨d, rfl⟩ := Nat.exists_eq_add_of_le (Nat.le_of_not_lt early)
      have reached := reaches d
      rw [Nat.add_mul]
      omega
  rw [interval, Nat.card_Ico, Nat.add_sub_cancel_left]

end Parley.Random.Source
