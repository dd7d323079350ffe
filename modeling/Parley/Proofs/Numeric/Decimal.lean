import Mathlib.Tactic.Lemma
import Parley.Numeric.Decimal

/-!
# Digits of numbers

The digits of a number are read back as that number (`readDigits_digits`), so different numbers are
written differently (`digits_injective`). They begin with a zero only if the number is zero
(`digits_zero_first`).
-/

namespace Parley.Decimal

/-- A digit has the value that it is written for. -/
lemma digitValue?_digit {d : Nat} (small : d < 10) : digitValue? (digit d) = some d := by
  have all : ∀ d < 10, digitValue? (digit d) = some d := by decide
  exact all d small

/-- Whatever is read from a first part is the value that the rest is read on top of. -/
lemma readDigits_append (bound value : Nat) (xs ys : List Char) :
    readDigits bound value (xs ++ ys) =
      (readDigits bound value xs).bind fun value => readDigits bound value ys := by
  induction xs generalizing value with
  | nil => rfl
  | cons c rest ih =>
    rw [List.cons_append, readDigits, readDigits]
    cases digitValue? c with
    | none => rfl
    | some d =>
      dsimp only
      split
      · exact ih _
      · rfl

/-- The digits of a number below the bound are read as the number. -/
lemma readDigits_digits {bound n : Nat} (fits : n < bound) :
    readDigits bound 0 (digits n) = .ok n := by
  have single (value : Nat) {d : Nat} (small : d < 10) (fits : value * 10 + d < bound) :
      readDigits bound value [digit d] = .ok (value * 10 + d) := by
    rw [readDigits, digitValue?_digit small]
    exact if_pos fits
  fun_induction digits n with
  | case1 n small => simpa using single 0 small (by omega)
  | case2 n _ ih =>
    rw [readDigits_append, ih (by omega)]
    have whole : n / 10 * 10 + n % 10 = n := by omega
    rw [Except.bind, single _ (Nat.mod_lt n (by decide)) (by omega), whole]

/-- Digits have values. -/
lemma isSome_digitValue?_of_mem {c : Char} {n : Nat} (mem : c ∈ digits n) :
    (digitValue? c).isSome := by
  fun_induction digits n with
  | case1 n small =>
    rw [List.mem_singleton.1 mem, digitValue?_digit small]
    rfl
  | case2 n _ ih =>
    obtain mem | mem := List.mem_append.1 mem
    · exact ih mem
    · rw [List.mem_singleton.1 mem, digitValue?_digit (Nat.mod_lt n (by decide))]
      rfl

/-- Every number has a digit. -/
lemma digits_ne_nil (n : Nat) : digits n ≠ [] := by
  rw [digits]
  split
  · exact List.cons_ne_nil _ _
  · simp

/-- Different numbers have different digits. -/
lemma digits_injective {m n : Nat} (same : digits m = digits n) : m = n := by
  have read : readDigits (m + n + 1) 0 (digits m) = .ok m := readDigits_digits (by omega)
  rw [same, readDigits_digits (by omega)] at read
  exact (Except.ok.inj read).symm

/-- The digits of a number begin with a digit. -/
lemma digits_cons (n : Nat) :
    ∃ c cs, digits n = c :: cs ∧ (digitValue? c).isSome = true := by
  obtain ⟨c, cs, shape⟩ := List.exists_cons_of_ne_nil (digits_ne_nil n)
  exact ⟨c, cs, shape, isSome_digitValue?_of_mem (shape ▸ List.mem_cons_self)⟩

/-- Numbers are written without leading zeros. -/
lemma digits_zero_first {n : Nat} (zero : (digits n).head? = some '0') : n = 0 := by
  have small (n : Nat) (small : n < 10) : digit n = '0' → n = 0 := by
    revert n
    decide
  fun_induction digits n with
  | case1 n below => exact small n below (Option.some.inj zero)
  | case2 n _ ih =>
    rw [List.head?_append, Option.or_of_isSome (List.isSome_head?.2 (digits_ne_nil _))] at zero
    have leading := ih zero
    omega

/-! ## Integers -/

/-- A natural number is written without a sign. -/
lemma ofInt_ofNat (n : Nat) : (ofInt (.ofNat n)).toList = digits n :=
  String.toList_ofList

/-- A negative number is written with a sign in front of its digits. -/
lemma ofInt_negSucc (n : Nat) : (ofInt (.negSucc n)).toList = '-' :: digits (n + 1) := by
  rw [ofInt, String.toList_append, ofNat, String.toList_ofList, String.toList_ofList]
  rfl

/-- Different integers are written differently. -/
lemma ofInt_injective {m n : Int} (same : ofInt m = ofInt n) : m = n := by
  have unsigned (n : Nat) (cs : List Char) : digits n ≠ '-' :: cs := by
    intro signed
    have digit : (digitValue? '-').isSome := isSome_digitValue?_of_mem (signed ▸ List.mem_cons_self)
    cases digit
  have same := congrArg String.toList same
  cases m <;> cases n <;> simp only [ofInt_ofNat, ofInt_negSucc] at same
  · rw [digits_injective same]
  · exact absurd same (unsigned _ _)
  · exact absurd same.symm (unsigned _ _)
  · rw [Nat.succ.inj (digits_injective (List.cons.inj same).2)]

end Parley.Decimal
