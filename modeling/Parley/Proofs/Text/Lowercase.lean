import Mathlib.Tactic.Lemma
import Parley.Text.Blank
import Parley.Text.Lowercase

/-!
# Lower case

The lower case of a character is never a capital of ASCII, and a digit or a blank only if the
character is one (`lowercase_inv`). Capitals and small letters of ASCII have the same lower case
(`lowercaseAll_map_toLower`). A capital sigma has two lower cases in a text, which makes a
difference in texts of several characters only (`Lowered.eq_or`).
-/

namespace Parley.Unicode

/-- What a run moves is among its pairs. -/
lemma CaseRun.mem_pairs {r : CaseRun} {n m : Nat} (moved : r.image? n = some m) :
    (n, m) ∈ r.pairs := by
  rw [image?] at moved
  split at moved
  · next covered =>
    obtain ⟨least, most, whole⟩ := covered
    cases moved
    have steps := Nat.div_add_mod (n - r.first) r.stride
    rw [whole, Nat.add_zero] at steps
    refine List.mem_map.2 ⟨n, List.mem_range'.2 ⟨(n - r.first) / r.stride, ?_, ?_⟩, rfl⟩
    · exact Nat.lt_succ_of_le (Nat.div_le_div_right (Nat.sub_le_sub_right most _))
    · rw [steps, Nat.add_sub_of_le least]
  · cases moved

end Parley.Unicode

namespace Parley.Text

open Unicode (CaseRun)

variable {c d : Char} {cs w : List Char}

/-! ## Single characters -/

/-- Digits and capitals of ASCII, and blanks. -/
def isKept (c : Char) : Bool := c.isDigit || c.isUpper || isBlank c

/-- No lower case in the tables is a digit, a capital of ASCII or a blank. -/
lemma not_isKept_of_mem_pairs :
    ∀ r ∈ lowercaseRuns, ∀ p ∈ r.pairs, isKept (Char.ofNat p.2) = false := by
  decide +kernel

/-- The capitals of ASCII have the numbers from 65 to 90. -/
lemma isUpper_iff (c : Char) : c.isUpper = true ↔ 65 ≤ c.toNat ∧ c.toNat ≤ 90 :=
  decide_eq_true_iff

/-- So they are characters of ASCII. -/
lemma ascii_of_isUpper (capital : c.isUpper = true) : c.toNat < 128 := by
  obtain ⟨_, most⟩ := (isUpper_iff c).1 capital
  omega

/-- What holds of the numbers of ASCII holds of the characters that have them. -/
@[elab_as_elim]
lemma of_ascii {motive : Char → Prop} (c : Char) (ascii : c.toNat < 128)
    (all : ∀ n < 128, motive (Char.ofNat n)) : motive c := by
  have here := all c.toNat ascii
  rwa [Char.ofNat_toNat] at here

/-- A capital of ASCII has its small letter as lower case, and so has the small letter. -/
lemma lowercase_capital (capital : c.isUpper = true) :
    lowercase c = [c.toLower] ∧ lowercase c.toLower = [c.toLower] ∧ c.toLower.isLower = true := by
  have ascii := ascii_of_isUpper capital
  revert capital
  refine of_ascii c ascii ?_
  decide +kernel

/-- A small letter of ASCII is no digit, no capital and no blank. -/
lemma not_isKept_of_isLower (letter : c.isLower = true) : isKept c = false := by
  have most : c.toNat ≤ 122 := of_decide_eq_true (Bool.and_eq_true_iff.1 letter).2
  have ascii : c.toNat < 128 := by omega
  revert letter
  refine of_ascii c ascii ?_
  decide +kernel

/-- What is no digit, no capital and no blank is no capital. -/
lemma isUpper_of_not_isKept (other : isKept c = false) : c.isUpper = false := by
  rw [isKept, Bool.or_eq_false_iff, Bool.or_eq_false_iff] at other
  exact other.1.2

/-- A character becomes itself or what is no digit, no capital and no blank, and never a capital. -/
lemma lowercase_inv (lower : lowercase c = [d]) :
    (d = c ∨ isKept d = false) ∧ d.isUpper = false := by
  cases capital : c.isUpper with
  | true =>
    obtain ⟨small, _, letter⟩ := lowercase_capital capital
    have other := not_isKept_of_isLower letter
    rw [small] at lower
    cases lower
    exact ⟨.inr other, isUpper_of_not_isKept other⟩
  | false =>
    -- a capital with a dot becomes two characters; others are in the tables or left as they are
    rw [lowercase] at lower
    split at lower
    · cases lower
    · split at lower
      · next n found =>
        cases lower
        obtain ⟨r, mem, moved⟩ := List.exists_of_findSome?_eq_some found
        have other := not_isKept_of_mem_pairs r mem _ (CaseRun.mem_pairs moved)
        exact ⟨.inr other, isUpper_of_not_isKept other⟩
      · cases lower
        exact ⟨.inl rfl, capital⟩

/-- No character becomes nothing. -/
lemma lowercase_ne_nil (c : Char) : lowercase c ≠ [] := by
  rw [lowercase]
  split
  · exact List.cons_ne_nil _ _
  · split <;> exact List.cons_ne_nil _ _

/-- What is no capital of ASCII stays as it is. -/
lemma toLower_of_not_isUpper (small : c.isUpper = false) : c.toLower = c := by
  rw [← Bool.not_eq_true, isUpper_iff] at small
  exact dif_neg small

/-- A letter of ASCII has the same lower case in both of its cases. -/
lemma lowercase_toLower (c : Char) : lowercase c.toLower = lowercase c := by
  cases capital : c.isUpper with
  | true =>
    obtain ⟨lower, lower', _⟩ := lowercase_capital capital
    rw [lower, lower']
  | false => rw [toLower_of_not_isUpper capital]

/-! ## Texts -/

/-- The case of the letters of ASCII makes no difference. -/
lemma lowercaseAll_map_toLower (cs : List Char) :
    lowercaseAll (cs.map Char.toLower) = lowercaseAll cs := by
  rw [lowercaseAll, List.flatMap_map, funext lowercase_toLower, lowercaseAll]

/-- A lower case of some characters behind another one: a capital sigma may take the form that it
has at the end of a word. -/
inductive LoweredBehind : List Char → List Char → Prop where
  | nil :
    LoweredBehind [] []
  | cons {c : Char} {cs w : List Char} :
    LoweredBehind cs w →
    LoweredBehind (c :: cs) (lowercase c ++ w)
  | sigma {cs w : List Char} :
    LoweredBehind cs w →
    LoweredBehind ('\u03a3' :: cs) ('\u03c2' :: w)

/-- A lower case of a text. -/
inductive Lowered : List Char → List Char → Prop where
  | nil :
    Lowered [] []
  | cons {c : Char} {cs w : List Char} :
    LoweredBehind cs w →
    Lowered (c :: cs) (lowercase c ++ w)

/-- The lower case of each character is a lower case of them all. -/
lemma LoweredBehind.plain (cs : List Char) : LoweredBehind cs (lowercaseAll cs) := by
  induction cs with
  | nil => exact .nil
  | cons c rest ih => exact .cons ih

/-- So it is for a text. -/
lemma Lowered.plain (cs : List Char) : Lowered cs (lowercaseAll cs) := by
  cases cs with
  | nil => exact .nil
  | cons c rest => exact .cons (.plain rest)

/-- A text with a lower case that is not empty is not empty. -/
lemma Lowered.ne_nil (lower : Lowered cs w) (some : w ≠ []) : cs ≠ [] := by
  rintro rfl
  cases lower
  exact some rfl

/-- One character is the lower case of one character. -/
lemma Lowered.single (lower : Lowered cs [d]) : ∃ c, cs = [c] ∧ lowercase c = [d] := by
  generalize one : [d] = w at lower
  cases lower with
  | nil => cases one
  | @cons c cs w behind =>
    -- every character becomes one at least, so there is no room for a second
    obtain ⟨e, first, begins⟩ := List.exists_cons_of_ne_nil (lowercase_ne_nil c)
    rw [begins] at one
    obtain ⟨rfl, empty⟩ := List.cons.inj one
    obtain ⟨rfl, rfl⟩ := List.append_eq_nil_iff.1 empty.symm
    refine ⟨c, ?_, (List.append_nil _).symm⟩
    generalize nothing : ([] : List Char) = w at behind
    cases behind with
    | nil => rfl
    | @cons c _ _ _ => exact absurd (List.append_eq_nil_iff.1 nothing.symm).1 (lowercase_ne_nil c)
    | sigma _ => cases nothing

/-- A small sigma in either form. -/
def IsSigma (c : Char) : Prop := c = '\u03c2' ∨ c = '\u03c3'

/-- Two lower cases are the same, or both have a sigma in them. -/
lemma LoweredBehind.eq_or (lower : LoweredBehind cs w) :
    w = lowercaseAll cs ∨ (∃ c ∈ w, IsSigma c) ∧ ∃ c ∈ lowercaseAll cs, IsSigma c := by
  induction lower with
  | nil => exact .inl rfl
  | @cons c cs w _ ih =>
    obtain rfl | ⟨⟨a, mem, sigma⟩, b, mem', sigma'⟩ := ih
    · exact .inl rfl
    · exact .inr ⟨⟨a, List.mem_append_right _ mem, sigma⟩, b, List.mem_append_right _ mem', sigma'⟩
  | sigma _ _ =>
    refine .inr ⟨⟨_, List.mem_cons_self, .inl rfl⟩, '\u03c3', ?_, .inr rfl⟩
    exact List.mem_append_left _ (by decide)

/-- Two lower cases of a text are the same, or both have several characters and a sigma in them. -/
lemma Lowered.eq_or (lower : Lowered cs w) :
    w = lowercaseAll cs ∨ ∀ v ∈ [w, lowercaseAll cs], 1 < v.length ∧ ∃ c ∈ v, IsSigma c := by
  cases lower with
  | nil => exact .inl rfl
  | @cons c cs w behind =>
    have first := List.length_pos_iff.2 (lowercase_ne_nil c)
    have both {v : List Char} (sigma : ∃ c ∈ v, IsSigma c) :
        1 < (lowercase c ++ v).length ∧ ∃ d ∈ lowercase c ++ v, IsSigma d := by
      obtain ⟨a, mem, sigma⟩ := sigma
      have other := List.length_pos_of_mem mem
      rw [List.length_append]
      exact ⟨by omega, a, List.mem_append_right _ mem, sigma⟩
    obtain rfl | ⟨sigma, sigma'⟩ := behind.eq_or
    · exact .inl rfl
    · right
      rw [List.forall_mem_cons, List.forall_mem_singleton]
      exact ⟨both sigma, both sigma'⟩

end Parley.Text
