import Parley.Json.Reader
import Parley.Proofs.Numeric.Decimal

/-!
# Reading integers

The text of an integer is read digit by digit. An integer that fits into 64 bits, with a sign or
without one, is read as itself, and any other one as a floating-point number
(`Value.Written.inv`).
-/

namespace Parley.Json

open Decimal (digitValue? digits minSigned wordBound)

namespace Reader

/-! ## Steps of readers -/

/-- What is read next is read from where the first reader has stopped. -/
lemma bind_of {α β : Type} {x : Reader α} {f : α → Reader β} {cs rest : List Char} {a : α}
    (read : x cs = .ok (a, rest)) : (x >>= f) cs = f a rest := by
  show Except.bind (x cs) _ = _
  rw [read]
  rfl

/-- Looking at the text takes nothing from it. -/
lemma get_bind {β : Type} (f : List Char → Reader β) (cs : List Char) :
    ((get : Reader (List Char)) >>= f) cs = f cs cs := rfl

/-! ## Digits -/

/-- The text behind a number does not go on with it. -/
def Ends (rest : List Char) : Prop :=
  ∀ c, rest.head? = some c → digitValue? c = none ∧ c ≠ '.' ∧ c ≠ 'e' ∧ c ≠ 'E'

/-- The digits of a number are taken, and no more. -/
lemma digitRun_digits (n : Nat) {rest : List Char} (ends : Ends rest) :
    digitRun (digits n ++ rest) = .ok ((digits n).filterMap digitValue?, rest) := by
  have all : ∀ c ∈ digits n, (digitValue? c).isSome = true :=
    fun c mem => Decimal.isSome_digitValue?_of_mem mem
  have none_left : rest.takeWhile (digitValue? · |>.isSome) = [] ∧
      rest.dropWhile (digitValue? · |>.isSome) = rest := by
    cases rest with
    | nil => exact ⟨rfl, rfl⟩
    | cons c rest =>
      have none_first := (ends c rfl).1
      simp [none_first]
  rw [digitRun, List.takeWhile_append_of_pos all, List.dropWhile_append_of_pos all, none_left.1,
    none_left.2, List.append_nil]

/-- Digits are gathered one part after the other, as long as none is left over. -/
lemma gather_append (value : Nat) (xs ys : List Nat) :
    gather value (xs ++ ys) =
      if (gather value xs).2 = 0 then gather (gather value xs).1 ys
      else ((gather value xs).1, (gather value xs).2 + ys.length) := by
  induction xs generalizing value with
  | nil => rfl
  | cons d rest ih =>
    rw [List.cons_append, gather, gather]
    by_cases fits : value * 10 + d < wordBound
    · rw [if_pos fits, if_pos fits]
      exact ih _
    · rw [if_neg fits, if_neg fits, List.length_append]
      dsimp only
      rw [if_neg (Nat.succ_ne_zero _), Nat.add_right_comm]

/-- The digits of a number that fits into 64 bits are gathered into that number, and of the digits
of a larger one some are left over. -/
lemma gather_digits (n : Nat) :
    (n < wordBound → gather 0 ((digits n).filterMap digitValue?) = (n, 0)) ∧
      (wordBound ≤ n → (gather 0 ((digits n).filterMap digitValue?)).2 ≠ 0) := by
  have single {d : Nat} (small : d < 10) :
      [Decimal.digit d].filterMap digitValue? = [d] := by
    rw [List.filterMap_cons, Decimal.digitValue?_digit small]
    rfl
  fun_induction digits n with
  | case1 n small =>
    rw [single small]
    have fits : n < wordBound := by
      rw [wordBound]
      omega
    refine ⟨fun _ => ?_, fun above => absurd fits (Nat.not_lt.2 above)⟩
    rw [gather, Nat.zero_mul, Nat.zero_add, if_pos fits]
    rfl
  | case2 n _ ih =>
    obtain ⟨below, above⟩ := ih
    have whole : n / 10 * 10 + n % 10 = n := by omega
    rw [List.filterMap_append, single (Nat.mod_lt n (by decide)), gather_append]
    by_cases first : n / 10 < wordBound
    · rw [below first]
      dsimp only
      rw [if_pos rfl, gather, whole]
      constructor
      · intro fits
        rw [if_pos fits]
        rfl
      · intro large
        rw [if_neg (Nat.not_lt.2 large)]
        exact Nat.one_ne_zero
    · have left := above (Nat.not_lt.1 first)
      rw [if_neg left]
      refine ⟨fun fits => absurd fits ?_, fun _ => Nat.succ_ne_zero _⟩
      omega

/-! ## Numbers -/

/-- How a number of digits only is read, after its minus sign if it has one. -/
def ofDigits (negative : Bool) (n : Nat) : Except Fault Number :=
  if n < wordBound then .ok (wholeNumber negative n)
  else
    let (significand, left) := gather 0 ((digits n).filterMap digitValue?)
    floatOf negative significand left

/-- A number that ends here has no exponent. -/
lemma Ends.atExponent {rest : List Char} (ends : Ends rest) :
    atExponent rest = .ok (false, rest) := by
  cases rest with
  | nil => rfl
  | cons c rest =>
    obtain ⟨_, _, lower, upper⟩ := ends c rfl
    simp [Reader.atExponent, lower, upper]

/-- The digits of a number do not begin with a zero that another digit follows. -/
lemma unpadded {n : Nat} {c : Char} {cs rest : List Char} (shape : digits n = c :: cs)
    (ends : Ends rest) : ¬ (c = '0' ∧ ((cs ++ rest).head?.bind digitValue?).isSome = true) := by
  rintro ⟨rfl, padded⟩
  obtain rfl : n = 0 := Decimal.digits_zero_first (by rw [shape]; rfl)
  rw [digits, if_pos (by decide)] at shape
  cases shape
  cases rest with
  | nil => cases padded
  | cons c rest =>
    rw [List.nil_append, List.head?_cons, Option.bind_some, (ends c rfl).1] at padded
    cases padded

/-- Behind a number there is no point to read on from. -/
lemma Ends.match_point {α : Type} {rest : List Char} (ends : Ends rest) (a b : α) :
    (match rest.head? with
      | some '.' => a
      | _ => b) = b := by
  split
  · next point => exact absurd rfl (ends _ point).2.1
  · rfl

/-- A number without a point and an exponent is read as its digits say. -/
lemma numberRest_digits (negative : Bool) (n : Nat) {rest : List Char} (ends : Ends rest) :
    numberRest negative (digits n ++ rest) = (ofDigits negative n).map (·, rest) := by
  obtain ⟨c, cs, shape, digit⟩ := Decimal.digits_cons n
  have run : digitRun (c :: (cs ++ rest)) = .ok ((digits n).filterMap digitValue?, rest) := by
    rw [← List.cons_append, ← shape]
    exact digitRun_digits n ends
  have digital : ¬ (digitValue? c).isNone = true := by
    rw [Option.isNone_iff_eq_none]
    exact Option.isSome_iff_ne_none.1 digit
  obtain ⟨below, above⟩ := gather_digits n
  rw [shape, List.cons_append, numberRest, get_bind]
  dsimp only
  rw [if_neg digital, if_neg (unpadded shape ends), bind_of run, get_bind, ofDigits]
  -- neither a point nor an exponent follows, so what is left over decides
  refine (congrFun (ends.match_point _ _) rest).trans ?_
  rw [bind_of ends.atExponent, if_neg Bool.false_ne_true]
  by_cases fits : n < wordBound
  · rw [below fits, if_pos rfl, if_pos fits]
    rfl
  · rw [if_neg (above (Nat.not_lt.1 fits)), if_neg fits]
    generalize gather 0 ((digits n).filterMap digitValue?) = gathered
    dsimp only
    cases floatOf negative gathered.1 gathered.2 with
    | ok x => rfl
    | error e => rfl

/-- The text of an integer is read as a number of digits only. -/
lemma number_ofInt (m : Int) {rest : List Char} (ends : Ends rest) :
    number ((Decimal.ofInt m).toList ++ rest) =
      (ofDigits (decide (m < 0)) m.natAbs).map (·, rest) := by
  cases m with
  | ofNat n =>
    obtain ⟨c, cs, shape, digit⟩ := Decimal.digits_cons n
    have unsigned : ¬ ((c :: (cs ++ rest)).head? == some '-') = true := by
      rw [List.head?_cons, beq_iff_eq]
      rintro ⟨⟩
      revert digit
      decide
    have whole := numberRest_digits false n ends
    rw [shape] at whole
    rw [Decimal.ofInt_ofNat, shape, number, get_bind, List.cons_append, if_neg unsigned]
    exact whole
  | negSucc n =>
    rw [Decimal.ofInt_negSucc, number, get_bind, List.cons_append, List.head?_cons,
      if_pos (beq_self_eq_true _), decide_eq_true (Int.negSucc_lt_zero n)]
    exact numberRest_digits true (n + 1) ends

/-- Blanks in front of a value are skipped. -/
lemma valueStart_blanks {blanks : List Char} (blank : ∀ c ∈ blanks, isSpace c = true) {c : Char}
    (starts : isSpace c = false) (cs : List Char) :
    valueStart (blanks ++ c :: cs) = .ok (c, c :: cs) := by
  have next : (blanks ++ c :: cs).dropWhile isSpace = c :: cs := by
    rw [List.dropWhile_append_of_pos blank, List.dropWhile_cons, starts]
    rfl
  have peeked : peek (blanks ++ c :: cs) = .ok (some c, c :: cs) := by
    rw [peek, next]
    rfl
  rw [valueStart, bind_of peeked]
  rfl

/-- A number begins with a minus sign or a digit. -/
lemma ofInt_cons (m : Int) :
    ∃ c cs, (Decimal.ofInt m).toList = c :: cs ∧ (c = '-' ∨ (digitValue? c).isSome = true) := by
  cases m with
  | ofNat n =>
    obtain ⟨c, cs, shape, digit⟩ := Decimal.digits_cons n
    exact ⟨c, cs, (Decimal.ofInt_ofNat n).trans shape, .inr digit⟩
  | negSucc n => exact ⟨'-', _, Decimal.ofInt_negSucc n, .inl rfl⟩

/-- No other value begins with such a character, and no blank is one. -/
lemma begins_number {c : Char} (starts : c = '-' ∨ (digitValue? c).isSome = true) :
    (∀ d, ¬ (d = '-' ∨ (digitValue? d).isSome = true) → c ≠ d) ∧ isSpace c = false := by
  have other (d : Char) (other : ¬ (d = '-' ∨ (digitValue? d).isSome = true)) : c ≠ d := by
    rintro rfl
    exact other starts
  refine ⟨other, ?_⟩
  simp [isSpace, other ' ' (by decide), other '\n' (by decide), other '\t' (by decide),
    other '\r' (by decide)]

/-- The text of an integer behind some blanks is read as a number of digits only. -/
lemma value_ofInt (depth : Nat) (m : Int) {blanks rest : List Char}
    (blank : ∀ c ∈ blanks, isSpace c = true) (ends : Ends rest) :
    value depth (blanks ++ (Decimal.ofInt m).toList ++ rest) =
      (ofDigits (decide (m < 0)) m.natAbs).map fun n => (.number n, rest) := by
  obtain ⟨c, cs, shape, starts⟩ := ofInt_cons m
  obtain ⟨other, unblank⟩ := begins_number starts
  have read := number_ofInt m ends
  rw [shape] at read
  unfold value
  rw [shape, List.append_assoc, List.cons_append, bind_of (valueStart_blanks blank unblank _),
    if_neg (other _ (by decide)), if_neg (other _ (by decide)), if_neg (other _ (by decide)),
    if_pos starts]
  show Except.bind (number (c :: cs ++ rest)) _ = _
  rw [read]
  cases ofDigits (decide (m < 0)) m.natAbs with
  | ok x => rfl
  | error e => rfl

/-- An integer of 64 bits, with a sign or without one, is read as itself. -/
lemma ofDigits_int {m : Int} (least : minSigned ≤ m) (most : m < wordBound) :
    ofDigits (decide (m < 0)) m.natAbs = .ok (.int m) := by
  rw [minSigned] at least
  rw [wordBound] at most
  have fits : m.natAbs < wordBound := by
    rw [wordBound]
    omega
  rw [ofDigits, if_pos fits, wholeNumber]
  by_cases negative : m < 0
  · have signed : 0 < m.natAbs ∧ m.natAbs ≤ 9223372036854775808 := by omega
    rw [decide_eq_true negative, if_neg (by decide), if_pos signed,
      Int.ofNat_natAbs_of_nonpos (Int.le_of_lt negative), Int.neg_neg]
  · rw [decide_eq_false negative, if_pos (by decide),
      Int.natAbs_of_nonneg (Int.not_lt.1 negative)]

/-- What is read as a double is never an integer. -/
lemma floatOf_float {negative : Bool} {significand : Nat} {exponent : Int} {x : Number}
    (read : floatOf negative significand exponent = .ok x) : ∃ f, x = .float f := by
  rw [floatOf] at read
  generalize scaleByTen _ _ _ = scaled at read
  cases scaled with
  | ok magnitude =>
    cases read
    exact ⟨_, rfl⟩
  | error _ => cases read

/-- Any other integer is read as a floating-point number, if it is read at all. -/
lemma ofDigits_float {m : Int} (beyond : m < minSigned ∨ wordBound ≤ m) {x : Number}
    (read : ofDigits (decide (m < 0)) m.natAbs = .ok x) : ∃ f, x = .float f := by
  rw [minSigned, wordBound] at beyond
  rw [ofDigits] at read
  by_cases fits : m.natAbs < wordBound
  · have wide : ¬ (0 < m.natAbs ∧ m.natAbs ≤ 9223372036854775808) := by
      rw [wordBound] at fits
      omega
    have negative : m < 0 := by
      rw [wordBound] at fits
      omega
    rw [if_pos fits, wholeNumber, decide_eq_true negative, if_neg (by decide), if_neg wide] at read
    cases read
    exact ⟨_, rfl⟩
  · rw [if_neg fits] at read
    exact floatOf_float read

end Reader

namespace Value

/-- The values that an integer is read as, from its text with blanks before it and other text behind
it. The text of zero is `0` here; with a minus sign it would be a floating-point zero. -/
inductive Written (m : Int) (v : Value) : Prop where
  | read {depth : Nat} {blanks rest after : List Char} :
    (∀ c ∈ blanks, Reader.isSpace c = true) →
    Reader.Ends rest →
    Reader.value depth (blanks ++ (Decimal.ofInt m).toList ++ rest) = .ok (v, after) →
    Written m v

/-- An integer of 64 bits can be read, and is read as itself. -/
lemma written_ofInt {m : Int} (least : minSigned ≤ m) (most : m < wordBound) :
    Written m (.ofInt m) := by
  have blank : ∀ c ∈ [], Reader.isSpace c = true := List.forall_mem_nil _
  have ends : Reader.Ends [] := fun _ => nofun
  have read := Reader.value_ofInt 0 m blank ends
  rw [Reader.ofDigits_int least most] at read
  exact .read blank ends read

/-- Only as itself it can be read, and any other integer only as a floating-point number. -/
lemma Written.inv {m : Int} {v : Value} (written : Written m v) :
    (minSigned ≤ m ∧ m < wordBound ∧ v = .ofInt m) ∨
      ((m < minSigned ∨ wordBound ≤ m) ∧ ∃ x, v = .number (.float x)) := by
  obtain ⟨blank, ends, read⟩ := written
  rw [Reader.value_ofInt _ m blank ends] at read
  by_cases fits : minSigned ≤ m ∧ m < wordBound
  · obtain ⟨least, most⟩ := fits
    rw [Reader.ofDigits_int least most] at read
    cases read
    exact .inl ⟨least, most, rfl⟩
  · have beyond : m < minSigned ∨ wordBound ≤ m := by omega
    refine .inr ⟨beyond, ?_⟩
    generalize float : Reader.ofDigits (decide (m < 0)) m.natAbs = number at read
    cases number with
    | ok x =>
      obtain ⟨f, rfl⟩ := Reader.ofDigits_float beyond float
      cases read
      exact ⟨f, rfl⟩
    | error _ => cases read

end Value

end Parley.Json
