import Mathlib.Algebra.Order.BigOperators.Group.List
import Mathlib.Algebra.Ring.Int.Defs
import Mathlib.Tactic.Lemma
import Parley.Dialogue.State

/-!
# Counters

A variable counts for the integer that it holds, or else for zero (`State.Counts`). Adding to it
stops at the ends of the signed integers of 64 bits, so that a counter that is only raised never
falls and never starts over (`Counts.incrementAll`). This is so for counters in that range. A
variable may also hold a larger integer, up to the largest unsigned one of 64 bits, and such a
variable starts over at zero when it is added to (`Counts.incremented_of_lt`).
-/

namespace Parley.State

open Decimal

variable {s s' : State} {key : String} {v amount : Int}

/-- The integer that a variable counts for. -/
inductive Counts (s : State) (key : String) : Int → Prop where
  | holds {v : Int} :
    s.get? key = some (.ofInt v) →
    Counts s key v
  | without :
    (∀ v, s.get? key ≠ some (.ofInt v)) →
    Counts s key 0

/-- Adds to a counter again and again. -/
def incrementAll (s : State) (key : String) (amounts : List Int) : State :=
  amounts.foldl (·.increment key ·) s

/-- A variable that is set has its new value. -/
@[simp] lemma get?_set_self (s : State) (key : String) (value : Json.Value) :
    (s.set key value).get? key = some value :=
  Dictionary.get?_insert_self ..

/-- Setting a variable leaves the others alone. -/
lemma get?_set_of_ne {other : String} (ne : other ≠ key) (value : Json.Value) :
    (s.set key value).get? other = s.get? other :=
  Dictionary.get?_insert_of_ne _ ne value

/-- A counter that is incremented holds the sum. -/
@[simp] lemma get?_increment_self (s : State) (key : String) (amount : Int) :
    (s.increment key amount).get? key = some (.ofInt (s.incremented key amount)) :=
  get?_set_self ..

/-- Incrementing a counter leaves the other variables alone. -/
lemma get?_increment_of_ne {other : String} (ne : other ≠ key) (amount : Int) :
    (s.increment key amount).get? other = s.get? other :=
  get?_set_of_ne ne _

/-- What a counter becomes depends on its own value only. -/
lemma get?_incrementAll_congr (same : s.get? key = s'.get? key) (amounts : List Int) :
    (s.incrementAll key amounts).get? key = (s'.incrementAll key amounts).get? key := by
  induction amounts generalizing s s' with
  | nil => exact same
  | cons amount rest ih =>
    have next : s.incremented key amount = s'.incremented key amount := by
      rw [incremented, incremented, getInt?, getInt?, same]
    apply ih
    rw [get?_increment_self, get?_increment_self, next]

/-- The signed integers are those between the least and the greatest of them. -/
lemma isSigned_iff {i : Int} : isSigned i = true ↔ minSigned ≤ i ∧ i ≤ maxSigned := by
  rw [isSigned, Bool.and_eq_true, decide_eq_true_eq, decide_eq_true_eq]

/-- Clamping leads to a signed integer. -/
lemma isSigned_clampSigned (i : Int) : isSigned (clampSigned i) = true := by
  rw [isSigned_iff, clampSigned, minSigned, maxSigned]
  omega

/-- Signed integers are not clamped. -/
lemma clampSigned_of_isSigned {i : Int} (fits : isSigned i = true) : clampSigned i = i := by
  rw [isSigned_iff] at fits
  rw [clampSigned]
  omega

/-- A counter whose value fits is read as that value. -/
lemma Counts.getInt? (counts : s.Counts key v) (fits : isSigned v = true) :
    (s.getInt? key).getD 0 = v := by
  rw [State.getInt?]
  cases counts with
  | holds held =>
    rw [held]
    show (if isSigned v = true then some v else none).getD 0 = v
    rw [if_pos fits]
    rfl
  | without never =>
    cases held : s.get? key with
    | none => rfl
    | some value =>
      cases value with
      | number n =>
        cases n with
        | int i => exact absurd held (never i)
        | float x => rfl
      | _ => rfl

/-- A counter whose value fits is counted on from there, as far as that fits. -/
lemma Counts.incremented (counts : s.Counts key v) (fits : isSigned v = true) (amount : Int) :
    s.incremented key amount = clampSigned (v + amount) := by
  rw [State.incremented, counts.getInt? fits]

/-- An integer above the signed ones is taken for no integer at all. -/
lemma Counts.incremented_of_lt (counts : s.Counts key v) (above : maxSigned < v)
    (word : isSigned amount = true) : s.incremented key amount = amount := by
  -- the value cannot be read as a signed integer, so counting starts from zero
  have unread : s.getInt? key = none := by
    cases counts with
    | holds held =>
      rw [State.getInt?, held]
      refine if_neg ?_
      rw [isSigned_iff]
      omega
    | without _ => exact absurd above (by decide)
  rw [isSigned_iff] at word
  rw [State.incremented, unread, Option.getD_none, Int.zero_add, clampSigned]
  omega

/-- A counter counts as the sum after it was incremented. -/
lemma counts_increment (s : State) (key : String) (amount : Int) :
    (s.increment key amount).Counts key (s.incremented key amount) :=
  .holds (get?_increment_self ..)

/-- A counter that is only raised becomes what it was and all that was added, or the largest signed
integer. -/
lemma Counts.incrementAll (counts : s.Counts key v) (fits : isSigned v = true) {amounts : List Int}
    (raises : ∀ amount ∈ amounts, 0 ≤ amount) :
    (s.incrementAll key amounts).Counts key (min maxSigned (v + amounts.sum)) := by
  induction amounts generalizing s v with
  | nil =>
    have whole : min maxSigned (v + 0) = v := by
      rw [isSigned_iff] at fits
      omega
    rw [List.sum_nil, whole]
    exact counts
  | cons amount rest ih =>
    obtain ⟨raise, raises⟩ := List.forall_mem_cons.1 raises
    have first := counts_increment s key amount
    rw [counts.incremented fits] at first
    have total := ih first (isSigned_clampSigned _) raises
    have rest_nonneg : 0 ≤ rest.sum := List.sum_nonneg raises
    -- where the first sum is clamped, the others only add to what is too large already
    have same : min maxSigned (clampSigned (v + amount) + rest.sum) =
        min maxSigned (v + (amount + rest.sum)) := by
      rw [isSigned_iff] at fits
      rw [clampSigned]
      omega
    rw [same] at total
    rwa [List.sum_cons]

/-- What adding to a counter that stood at `v` does, once and again and again. -/
structure Saturates (s : State) (key : String) (v amount : Int) : Prop where
  stored : (s.increment key amount).get? key = some (.ofInt (s.incremented key amount))
  others {other : String} : other ≠ key → (s.increment key amount).get? other = s.get? other
  exact : v ≤ maxSigned → s.incremented key amount = clampSigned (v + amount)
  /-- Raised again and again, the counter never falls. -/
  raised {amounts : List Int} : v ≤ maxSigned → (∀ amount ∈ amounts, 0 ≤ amount) →
    (s.incrementAll key amounts).Counts key (min maxSigned (v + amounts.sum)) ∧
      v ≤ min maxSigned (v + amounts.sum)
  /-- Only a counter above the signed integers starts over. -/
  starts_over : maxSigned < v → s.incremented key amount = amount

/-- Whatever a state holds, adding to a counter in the range of the signed integers is exact up to
the ends of that range, and leaves all other variables alone. -/
theorem counters_saturate (counts : s.Counts key v) (least : minSigned ≤ v)
    (word : isSigned amount = true) : s.Saturates key v amount where
  stored := get?_increment_self ..
  others ne := get?_increment_of_ne ne amount
  exact most := counts.incremented (isSigned_iff.2 ⟨least, most⟩) amount
  raised {amounts} most raises := by
    have sum_nonneg : 0 ≤ amounts.sum := List.sum_nonneg raises
    exact ⟨counts.incrementAll (isSigned_iff.2 ⟨least, most⟩) raises, by omega⟩
  starts_over above := counts.incremented_of_lt above word

/-- A purse that is nearly full, beside a name: five more fill it, and the name stays. -/
theorem counters_saturate_purse :
    let s := (State.empty.set "gold" (.ofInt 9223372036854775804)).set "name" (.string "Ada")
    s.Counts "gold" 9223372036854775804 ∧ s.incremented "gold" 5 = maxSigned ∧
      (s.increment "gold" 5).get? "name" = some (.string "Ada") ∧
      (s.incrementAll "gold" [1, 0, 9]).Counts "gold" maxSigned := by
  intro s
  have counts : s.Counts "gold" 9223372036854775804 := .holds rfl
  have saturates : s.Saturates "gold" 9223372036854775804 5 :=
    counters_saturate counts (by decide) (by decide)
  have raises : ∀ amount ∈ ([1, 0, 9] : List Int), 0 ≤ amount := by decide
  exact ⟨counts, saturates.exact (by decide), saturates.others (by decide),
    (saturates.raised (by decide) raises).1⟩

/-- A purse that holds more than the largest signed integer holds one piece after one more. -/
theorem large_purse_starts_over :
    ¬ ∀ (s : State) (key : String) (v amount : Int), s.Counts key v → minSigned ≤ v →
      v < wordBound → isSigned amount = true →
      s.incremented key amount = clampSigned (v + amount) := by
  intro exact
  have one := exact (State.empty.set "gold" (.ofInt 9223372036854775808)) "gold" _ 1 (.holds rfl)
    (by decide) (by decide) (by decide)
  revert one
  decide

end Parley.State
