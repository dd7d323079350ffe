import Mathlib.Data.Nat.Digits.Defs
import Parley.Proofs.Numeric.Decimal

/-!
# Numerals

A numeral is an optional plus sign and at least one digit, with any number of zeros in front.
Reading accepts the numerals with a value below the bound and no other text (`read_eq_ok_iff`), so a
value that is too large is refused and never cut down.
-/

namespace Parley.Decimal

/-- The texts that stand for a number, with the number. -/
inductive Numeral : List Char → Nat → Prop where
  | plain {ds : List Nat} :
    ds ≠ [] →
    (∀ d ∈ ds, d < 10) →
    Numeral (ds.map digit) (Nat.ofDigits 10 ds.reverse)
  | signed {ds : List Nat} :
    ds ≠ [] →
    (∀ d ∈ ds, d < 10) →
    Numeral ('+' :: ds.map digit) (Nat.ofDigits 10 ds.reverse)

variable {bound value n : Nat} {cs : List Char} {ds : List Nat}

/-- A character with a value is the digit for it. -/
lemma eq_digit_of_digitValue? {c : Char} {d : Nat} (has : digitValue? c = some d) :
    d < 10 ∧ c = digit d := by
  rw [digitValue?] at has
  split at has
  · next range =>
    obtain ⟨least, most⟩ := range
    have least : 48 ≤ c.toNat := least
    have most : c.toNat ≤ 57 := most
    have zero : '0'.toNat = 48 := rfl
    cases has
    rw [zero, digit, zero, Nat.add_sub_of_le least, Char.ofNat_toNat]
    exact ⟨by omega, rfl⟩
  · cases has

/-- What is read digit by digit is digits only. -/
lemma exists_digits_of_readDigits (read : readDigits bound value cs = .ok n) :
    ∃ ds : List Nat, (∀ d ∈ ds, d < 10) ∧ cs = ds.map digit := by
  induction cs generalizing value with
  | nil => exact ⟨[], List.forall_mem_nil _, rfl⟩
  | cons c rest ih =>
    rw [readDigits] at read
    split at read
    · cases read
    · next d has =>
      split at read
      · obtain ⟨small, rfl⟩ := eq_digit_of_digitValue? has
        obtain ⟨ds, others, rfl⟩ := ih read
        exact ⟨d :: ds, List.forall_mem_cons.2 ⟨small, others⟩, rfl⟩
      · cases read

/-- Digits are read on top of the value so far, unless the result reaches the bound. -/
lemma readDigits_map_digit (small : ∀ d ∈ ds, d < 10) (below : value < bound) :
    readDigits bound value (ds.map digit) =
      if value * 10 ^ ds.length + Nat.ofDigits 10 ds.reverse < bound then
        .ok (value * 10 ^ ds.length + Nat.ofDigits 10 ds.reverse)
      else .error .tooLarge := by
  induction ds generalizing value with
  | nil => simp [readDigits, below]
  | cons d rest ih =>
    obtain ⟨first, others⟩ := List.forall_mem_cons.1 small
    have total :
        value * 10 ^ (rest.length + 1) + (Nat.ofDigits 10 rest.reverse + 10 ^ rest.length * d) =
          (value * 10 + d) * 10 ^ rest.length + Nat.ofDigits 10 rest.reverse := by
      ring
    rw [List.map_cons, readDigits, digitValue?_digit first, List.reverse_cons, Nat.ofDigits_append,
      Nat.ofDigits_singleton, List.length_reverse, List.length_cons, total]
    dsimp only
    -- digits only add to the value, so once a part of it is too large the whole is
    by_cases fits : value * 10 + d < bound
    · rw [if_pos fits, ih others fits]
    · have least : value * 10 + d ≤ (value * 10 + d) * 10 ^ rest.length :=
        Nat.le_mul_of_pos_right _ (Nat.pow_pos (by decide))
      rw [if_neg fits, if_neg (by omega)]

/-- No digit is a plus sign. -/
lemma digit_ne_plus {d : Nat} (small : d < 10) : digit d ≠ '+' := by
  have all : ∀ d < 10, digit d ≠ '+' := by decide
  exact all d small

/-- The plus sign is passed over, and the digits are read. -/
lemma Numeral.read_eq (positive : 0 < bound) (numeral : Numeral cs n) :
    read bound cs = if n < bound then .ok n else .error .tooLarge := by
  have digits {ds : List Nat} (small : ∀ d ∈ ds, d < 10) :
      readDigits bound 0 (ds.map digit) =
        if Nat.ofDigits 10 ds.reverse < bound then .ok (Nat.ofDigits 10 ds.reverse)
        else .error .tooLarge := by
    rw [readDigits_map_digit small positive, Nat.zero_mul, Nat.zero_add]
  cases numeral with
  | @plain ds some small =>
    rw [← digits small]
    cases ds with
    | nil => exact absurd rfl some
    | cons d rest =>
      -- the first character is a digit, so it is not passed over as a sign
      have unsigned := digit_ne_plus (small d List.mem_cons_self)
      rw [List.map_cons, read]
      · exact List.cons_ne_nil _ _
      · exact fun same => unsigned (List.cons.inj same).1
      · exact fun _ same => unsigned (List.cons.inj same).1
  | @signed ds some small =>
    rw [← digits small]
    cases ds with
    | nil => exact absurd rfl some
    | cons d rest => rfl

/-- Reading accepts the numerals below the bound, with their values. -/
lemma read_eq_ok_iff (positive : 0 < bound) : read bound cs = .ok n ↔ Numeral cs n ∧ n < bound := by
  constructor
  · intro read
    have numeral : ∃ n, Numeral cs n := by
      rw [Decimal.read.eq_def] at read
      split at read
      · cases read
      · cases read
      · next rest some =>
        obtain ⟨ds, small, rfl⟩ := exists_digits_of_readDigits read
        exact ⟨_, .signed (by rintro rfl; exact some rfl) small⟩
      · next some _ _ =>
        obtain ⟨ds, small, rfl⟩ := exists_digits_of_readDigits read
        exact ⟨_, .plain (by rintro rfl; exact some rfl) small⟩
    obtain ⟨m, numeral⟩ := numeral
    rw [numeral.read_eq positive] at read
    split at read
    · next fits =>
      cases read
      exact ⟨numeral, fits⟩
    · cases read
  · rintro ⟨numeral, fits⟩
    rw [numeral.read_eq positive, if_pos fits]

/-! ## What stands for numbers -/

/-- A text stands for one number at most. -/
lemma Numeral.unique {m : Nat} (numeral : Numeral cs n) (numeral' : Numeral cs m) : n = m := by
  have positive : 0 < n + m + 1 := Nat.succ_pos _
  have read := numeral.read_eq positive
  rw [numeral'.read_eq positive, if_pos (by omega), if_pos (by omega)] at read
  cases read
  rfl

/-- The decimal text of a number stands for it. -/
lemma numeral_digits (n : Nat) : Numeral (digits n) n := by
  have fits : n < n + 1 := Nat.lt_succ_self n
  have unsigned (cs : List Char) : digits n ≠ '+' :: cs := by
    intro same
    have plus : (digitValue? '+').isSome := isSome_digitValue?_of_mem (same ▸ List.mem_cons_self)
    cases plus
  have read : read (n + 1) (digits n) = .ok n := by
    rw [Decimal.read, readDigits_digits fits]
    · exact digits_ne_nil n
    · exact unsigned []
    · exact unsigned
  exact ((read_eq_ok_iff (Nat.succ_pos n)).1 read).1

/-- A numeral is made of digits and maybe a plus sign. -/
lemma Numeral.chars (numeral : Numeral cs n) :
    cs ≠ [] ∧ ∀ c ∈ cs, c = '+' ∨ ∃ d < 10, c = digit d := by
  have digits {ds : List Nat} (small : ∀ d ∈ ds, d < 10) {c : Char} (mem : c ∈ ds.map digit) :
      ∃ d < 10, c = digit d := by
    obtain ⟨d, listed, rfl⟩ := List.mem_map.1 mem
    exact ⟨d, small d listed, rfl⟩
  cases numeral with
  | plain some small => exact ⟨mt List.map_eq_nil_iff.1 some, fun c mem => .inr (digits small mem)⟩
  | signed some small =>
    exact ⟨List.cons_ne_nil _ _, fun c mem => (List.mem_cons.1 mem).imp_right (digits small)⟩

/-- A numeral of one character is a digit. -/
lemma Numeral.single {c : Char} (numeral : Numeral [c] n) : n < 10 := by
  generalize one : [c] = cs at numeral
  cases numeral with
  | @plain ds some small =>
    obtain ⟨d, rfl, _⟩ := List.map_eq_singleton_iff.1 one.symm
    rw [List.reverse_singleton, Nat.ofDigits_singleton]
    exact small d List.mem_cons_self
  | @signed ds some small =>
    exact absurd (List.map_eq_nil_iff.1 (List.cons.inj one).2.symm) some

end Parley.Decimal
