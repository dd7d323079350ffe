import Mathlib.Logic.ExistsUnique
import Parley.Proofs.Numeric.Numeral
import Parley.Proofs.Text.Blank
import Parley.Proofs.Text.Lowercase
import Parley.Surface.Event

/-!
# Typed lines

The grammar of typed lines overlaps: a digit is a number and a character, `b` a word and a
character. `Typed` says which reading counts, from the part of a line without the blanks around it
and from a lower case of that part; `ofLine` is this relation (`ofTrimmed_iff`).
-/

namespace Parley.InputEvent

open Decimal (Numeral digit wordBound)
open Text (Lowered Stripped isBlank isKept lowercase lowercaseAll trim)

variable {t w : List Char} {n : Nat} {c : Char} {event : Option InputEvent}

/-! ## Readings -/

/-- The words that back out. -/
inductive Backs : List Char → Prop where
  | b :
    Backs ['b']
  | back :
    Backs ['b', 'a', 'c', 'k']
  | esc :
    Backs ['e', 's', 'c']

/-- A text is no number of 64 bits. -/
def Unnumbered (t : List Char) : Prop := ∀ n, Numeral t n → 2 ^ 64 ≤ n

/-- The readings of a text `t` with the lower case `w`. -/
inductive Typed (t w : List Char) : Option InputEvent → Prop where
  | confirm :
    t = [] →
    Typed t w (some .confirm)
  | number {n : Nat} :
    Numeral t n →
    n < 2 ^ 64 →
    Typed t w (some (.number n))
  | cancel :
    Unnumbered t →
    Backs w →
    Typed t w (some .cancel)
  | key {c : Char} :
    Unnumbered t →
    ¬ Backs w →
    w = [c] →
    Typed t w (some (.key c))
  | nothing :
    t ≠ [] →
    Unnumbered t →
    ¬ Backs w →
    (∀ c, w ≠ [c]) →
    Typed t w none

/-- There is a reading of every text. -/
lemma exists_typed (t w : List Char) : ∃ event, Typed t w event := by
  -- in the order in which the readings are tried
  by_cases empty : t = []
  · exact ⟨_, .confirm empty⟩
  by_cases number : ∃ n, Numeral t n ∧ n < 2 ^ 64
  · obtain ⟨n, numeral, fits⟩ := number
    exact ⟨_, .number numeral fits⟩
  have unnumbered : Unnumbered t :=
    fun n numeral => Nat.not_lt.1 fun fits => number ⟨n, numeral, fits⟩
  by_cases backs : Backs w
  · exact ⟨_, .cancel unnumbered backs⟩
  by_cases single : ∃ c, w = [c]
  · obtain ⟨c, rfl⟩ := single
    exact ⟨_, .key unnumbered backs rfl⟩
  · exact ⟨_, .nothing empty unnumbered backs (not_exists.1 single)⟩

/-- The words for going back are those that cancel. -/
lemma backs_iff : Backs w ↔ String.ofList w ∈ cancelWords := by
  have words : cancelWords =
      [String.ofList ['b'], String.ofList ['b', 'a', 'c', 'k'], String.ofList ['e', 's', 'c']] := rfl
  simp only [words, List.mem_cons, String.ofList_inj, List.not_mem_nil, or_false]
  constructor
  · rintro (_ | _ | _) <;> simp
  · rintro (rfl | rfl | rfl)
    · exact .b
    · exact .back
    · exact .esc

/-- There is no sigma in the words. -/
lemma Backs.not_isSigma (backs : Backs w) : ∀ c ∈ w, ¬ Text.IsSigma c := by
  cases backs <;> simp [Text.IsSigma]

/-- The lower cases of a text are alike as words and as single characters. -/
lemma alike_of_lowered (lower : Lowered t w) :
    (Backs w ↔ Backs (lowercaseAll t)) ∧ ∀ c, w = [c] ↔ lowercaseAll t = [c] := by
  obtain rfl | long := lower.eq_or
  · exact ⟨Iff.rfl, fun _ => Iff.rfl⟩
  · have other {v : List Char} (mem : v ∈ [w, lowercaseAll t]) : ¬ Backs v ∧ ∀ c, v ≠ [c] := by
      obtain ⟨several, c, mem, sigma⟩ := long v mem
      exact ⟨fun backs => backs.not_isSigma c mem sigma, fun _ single => by simp [single] at several⟩
    obtain ⟨unlike, several⟩ := other List.mem_cons_self
    obtain ⟨unlike', several'⟩ := other (List.mem_cons_of_mem _ List.mem_cons_self)
    exact ⟨iff_of_false unlike unlike', fun c => iff_of_false (several c) (several' c)⟩

/-! ## Lines -/

/-- A number is tried before the words. -/
lemma ofTrimmed_unnumbered (some : t ≠ []) (unnumbered : Unnumbered t) :
    ofTrimmed t =
      if String.ofList (lowercaseAll t) ∈ cancelWords then Option.some .cancel
      else
        match lowercaseAll t with
        | [c] => Option.some (.key c)
        | _ => none := by
  rw [ofTrimmed, if_neg (mt List.isEmpty_iff.1 some)]
  split
  · next n read =>
    obtain ⟨numeral, fits⟩ := (Decimal.read_eq_ok_iff (by decide)).1 read
    exact absurd fits (Nat.not_lt.2 (unnumbered n numeral))
  · rfl

/-- A text is read in one way, whichever lower case of it is taken. -/
lemma Typed.ofTrimmed_eq (lower : Lowered t w) (typed : Typed t w event) : ofTrimmed t = event := by
  obtain ⟨backs_alike, single_alike⟩ := alike_of_lowered lower
  cases typed with
  | confirm empty =>
    subst empty
    rfl
  | number numeral fits =>
    have read : Decimal.read wordBound t = .ok _ :=
      (Decimal.read_eq_ok_iff (by decide)).2 ⟨numeral, fits⟩
    rw [ofTrimmed, if_neg (mt List.isEmpty_iff.1 numeral.chars.1), read]
  | cancel unnumbered backs =>
    have some := lower.ne_nil (by rintro rfl; cases backs)
    rw [ofTrimmed_unnumbered some unnumbered, if_pos (backs_iff.1 (backs_alike.1 backs))]
  | @key c unnumbered other single =>
    have some := lower.ne_nil (by simp [single])
    rw [ofTrimmed_unnumbered some unnumbered, if_neg (mt (backs_alike.2 ∘ backs_iff.2) other),
      (single_alike c).1 single]
  | nothing some unnumbered other several =>
    rw [ofTrimmed_unnumbered some unnumbered, if_neg (mt (backs_alike.2 ∘ backs_iff.2) other)]
    split
    · next c single => exact absurd ((single_alike c).2 single) (several c)
    · rfl

/-- The readings of a text are the events that it is read as. -/
lemma ofTrimmed_iff (lower : Lowered t w) : ofTrimmed t = event ↔ Typed t w event := by
  constructor
  · rintro rfl
    obtain ⟨event, typed⟩ := exists_typed t w
    rwa [typed.ofTrimmed_eq lower]
  · exact Typed.ofTrimmed_eq lower

/-- A line is read by what is left of it without the blanks around. -/
lemma ofLine_iff {line : String} (stripped : Stripped line.toList t) (lower : Lowered t w) :
    ofLine line = event ↔ Typed t w event := by
  rw [ofLine, ← Text.stripped_iff.1 stripped]
  exact ofTrimmed_iff lower

/-! ## What makes no difference -/

/-- No digit has another case, is a blank, or begins a word. -/
lemma digit_chars {d : Nat} (small : d < 10) :
    (digit d).toLower = digit d ∧ (digit d).isLower = false ∧ lowercase (digit d) = [digit d] ∧
      isBlank (digit d) = false ∧ digit d ≠ 'b' ∧ digit d ≠ 'e' := by
  have all : ∀ d < 10, (digit d).toLower = digit d ∧ (digit d).isLower = false ∧
      lowercase (digit d) = [digit d] ∧ isBlank (digit d) = false ∧ digit d ≠ 'b' ∧
      digit d ≠ 'e' := by
    decide +kernel
  exact all d small

/-- Numerals have no letters. -/
lemma numeral_map_toLower : Numeral (t.map Char.toLower) n ↔ Numeral t n := by
  have same (fixed : ∀ c ∈ t, c.toLower = c) : t.map Char.toLower = t :=
    (List.map_congr_left fixed).trans (List.map_id' t)
  constructor
  · intro numeral
    rwa [same] at numeral
    intro c mem
    cases capital : c.isUpper with
    | false => exact Text.toLower_of_not_isUpper capital
    | true =>
      -- the small letter of a capital is neither a sign nor a digit, so there is no capital here
      have letter := (Text.lowercase_capital capital).2.2
      obtain plus | ⟨d, small, same⟩ := numeral.chars.2 _ (List.mem_map_of_mem mem)
      · rw [plus] at letter
        exact absurd letter (by decide)
      · rw [same, (digit_chars small).2.1] at letter
        cases letter
  · intro numeral
    rwa [same]
    intro c mem
    obtain rfl | ⟨d, small, rfl⟩ := numeral.chars.2 _ mem
    · rfl
    · exact (digit_chars small).1

/-- A text is read alike in capitals and small letters of ASCII. -/
lemma ofTrimmed_map_toLower (t : List Char) : ofTrimmed (t.map Char.toLower) = ofTrimmed t := by
  have unnumbered (numbered : Unnumbered t) : Unnumbered (t.map Char.toLower) :=
    fun n numeral => numbered n (numeral_map_toLower.1 numeral)
  have lower := Lowered.plain (t.map Char.toLower)
  rw [Text.lowercaseAll_map_toLower] at lower
  refine Typed.ofTrimmed_eq lower ?_
  have typed := (ofTrimmed_iff (Lowered.plain t)).1 rfl
  generalize ofTrimmed t = event at typed
  cases typed with
  | confirm empty => exact .confirm (List.map_eq_nil_iff.2 empty)
  | number numeral fits => exact .number (numeral_map_toLower.2 numeral) fits
  | cancel numbered backs => exact .cancel (unnumbered numbered) backs
  | key numbered other single => exact .key (unnumbered numbered) other single
  | nothing some numbered other several =>
    exact .nothing (mt List.map_eq_nil_iff.1 some) (unnumbered numbered) other several

/-- The case of the letters of ASCII has nothing to do with blanks. -/
lemma isBlank_toLower (c : Char) : isBlank c.toLower = isBlank c := by
  cases capital : c.isUpper with
  | false => rw [Text.toLower_of_not_isUpper capital]
  | true =>
    have ascii := Text.ascii_of_isUpper capital
    revert capital
    refine Text.of_ascii c ascii ?_
    decide +kernel

/-! ## What keys and numbers are -/

/-- A key is no digit and no capital of ASCII, and no blank if the text has none at its ends. -/
lemma not_isKept_of_key (unnumbered : Unnumbered t) (lower : Lowered t [c])
    (unblank : ∀ c ∈ t.head?, isBlank c = false) : isKept c = false := by
  obtain ⟨x, rfl, single⟩ := lower.single
  obtain ⟨rfl | other, small⟩ := Text.lowercase_inv single
  · have digitless : c.isDigit = false := by
      rw [← Bool.not_eq_true]
      intro digital
      have range := Bool.and_eq_true_iff.1 digital
      have value : Decimal.digitValue? c = some (c.toNat - '0'.toNat) :=
        if_pos (range.imp of_decide_eq_true of_decide_eq_true)
      obtain ⟨below, same⟩ := Decimal.eq_digit_of_digitValue? value
      -- a digit on its own is a numeral, and one that fits
      have numeral := Decimal.numeral_digits (c.toNat - '0'.toNat)
      rw [Decimal.digits, if_pos below, ← same] at numeral
      exact absurd (unnumbered _ numeral) (by omega)
    rw [isKept, digitless, small, unblank c rfl]
    rfl
  · exact other

/-- A numeral is its own lower case, and no word. -/
lemma numeral_lowered (numeral : Numeral t n) : lowercaseAll t = t ∧ ¬ Backs t := by
  obtain ⟨_, chars⟩ := numeral.chars
  constructor
  · have same {cs : List Char} (chars : ∀ c ∈ cs, c = '+' ∨ ∃ d < 10, c = digit d) :
        lowercaseAll cs = cs := by
      induction cs with
      | nil => rfl
      | cons c rest ih =>
        obtain ⟨first, others⟩ := List.forall_mem_cons.1 chars
        have single : lowercase c = [c] := by
          obtain rfl | ⟨d, small, rfl⟩ := first
          · decide +kernel
          · exact (digit_chars small).2.2.1
        rw [lowercaseAll, List.flatMap_cons, single, ← lowercaseAll, ih others]
        rfl
    exact same chars
  · have letterless {c : Char} (letter : c = 'b' ∨ c = 'e') : c ∉ t := by
      intro mem
      obtain rfl | ⟨d, small, rfl⟩ := chars c mem
      · exact absurd letter (by decide)
      · obtain ⟨_, _, _, _, b, e⟩ := digit_chars small
        exact letter.elim b e
    rintro (_ | _ | _)
    · exact letterless (.inl rfl) (by decide)
    · exact letterless (.inl rfl) (by decide)
    · exact letterless (.inr rfl) (by decide)

/-- The decimal text of a number has no blanks around it. -/
lemma stripped_digits (n : Nat) : Stripped (Decimal.digits n) (Decimal.digits n) := by
  have unblank (c : Char) (mem : c ∈ Decimal.digits n) : isBlank c = false := by
    obtain rfl | ⟨d, small, rfl⟩ := (Decimal.numeral_digits n).chars.2 c mem
    · rfl
    · exact (digit_chars small).2.2.2.1
  rw [Text.stripped_iff, Text.trim_eq_self]
  · exact fun c first => unblank c (List.mem_of_mem_head? first)
  · exact fun c last => unblank c (List.mem_of_mem_getLast? last)

/-! ## The readings of lines -/

variable {line : String}

/-- Lines that differ in the case of letters of ASCII only are read alike. -/
lemma ofLine_congr {other : String}
    (same : other.toList.map Char.toLower = line.toList.map Char.toLower) :
    ofLine other = ofLine line := by
  have changed (line : String) : ofLine line = ofTrimmed (trim (line.toList.map Char.toLower)) := by
    rw [Text.trim_map isBlank_toLower, ofTrimmed_map_toLower]
    rfl
  rw [changed other, same, ← changed line]

/-- A number that fits is read back. -/
lemma ofLine_ofNat (fits : n < 2 ^ 64) : ofLine (Decimal.ofNat n) = some (.number n) := by
  have digits : (Decimal.ofNat n).toList = Decimal.digits n := String.toList_ofList
  rw [ofLine, digits, ← Text.stripped_iff.1 (stripped_digits n), ofTrimmed_iff (Lowered.plain _)]
  exact .number (Decimal.numeral_digits n) fits

/-- A number that does not fit has no meaning. -/
lemma ofLine_tooLarge (stripped : Stripped line.toList t) (numeral : Numeral t n)
    (large : 2 ^ 64 ≤ n) : ofLine line = none := by
  obtain ⟨same, wordless⟩ := numeral_lowered numeral
  rw [ofLine_iff stripped (Lowered.plain t), same]
  refine .nothing numeral.chars.1 (fun m other => ?_) wordless fun c single => ?_
  · rwa [← numeral.unique other]
  · subst single
    exact absurd numeral.single (by omega)

/-- No key is a digit, a capital of ASCII, a blank or the key for going back. -/
lemma ofLine_key (key : ofLine line = some (.key c)) :
    c.isDigit = false ∧ c.isUpper = false ∧ c ≠ 'b' ∧ isBlank c = false := by
  have stripped := Text.stripped_trim line.toList
  have lower := Lowered.plain (trim line.toList)
  have typed := (ofLine_iff stripped lower).1 key
  obtain ⟨_, _, _, _, _, first, _⟩ := stripped
  cases typed with
  | key unnumbered other single =>
    rw [single] at lower other
    have kept := not_isKept_of_key unnumbered lower first
    rw [isKept, Bool.or_eq_false_iff, Bool.or_eq_false_iff] at kept
    obtain ⟨⟨digitless, small⟩, unblank⟩ := kept
    exact ⟨digitless, small, fun same => other (same ▸ .b), unblank⟩

/-- How a typed line is read. -/
structure ReadAsTyped (line : String) : Prop where
  /-- The line has one part without the blanks around it. -/
  stripped : ∃! t, Stripped line.toList t
  /-- That part and a lower case of it, of which there is one, decide how the line is read. -/
  typed {t : List Char} : Stripped line.toList t →
    (∃ w, Lowered t w) ∧
      ∀ w, Lowered t w → ∀ event, ofLine line = event ↔ Typed t w event
  /-- Blanks around the line make no difference. -/
  blanks {before behind : String} : (∀ c ∈ before.toList, isBlank c = true) →
    (∀ c ∈ behind.toList, isBlank c = true) → ofLine (before ++ line ++ behind) = ofLine line
  /-- The case of the letters of ASCII makes no difference. -/
  letters {other : String} : other.toList.map Char.toLower = line.toList.map Char.toLower →
    ofLine other = ofLine line
  /-- The decimal text of a number of 64 bits is that number. -/
  decimal {n : Nat} : line = Decimal.ofNat n → n < 2 ^ 64 → ofLine line = some (.number n)
  /-- A larger number is nothing. -/
  tooLarge {t : List Char} {n : Nat} : Stripped line.toList t → Numeral t n → 2 ^ 64 ≤ n →
    ofLine line = none
  not_tick : ofLine line ≠ some .tick
  key {c : Char} : ofLine line = some (.key c) →
    c.isDigit = false ∧ c.isUpper = false ∧ c ≠ 'b' ∧ isBlank c = false

/-- Every typed line is read as its part without blanks and the lower case of that part say. -/
theorem lines_read_as_typed (line : String) : ReadAsTyped line where
  stripped := ⟨_, Text.stripped_trim _, fun _ stripped => Text.stripped_iff.1 stripped⟩
  typed {t} stripped := ⟨⟨_, Lowered.plain t⟩, fun _ lower _ => ofLine_iff stripped lower⟩
  blanks before behind := by
    rw [ofLine, String.toList_append, String.toList_append, Text.trim_surrounded before behind]
    rfl
  letters := ofLine_congr
  decimal := by
    rintro n rfl fits
    exact ofLine_ofNat fits
  tooLarge := ofLine_tooLarge
  not_tick tick := by
    cases (ofLine_iff (Text.stripped_trim line.toList) (Lowered.plain _)).1 tick
  key := ofLine_key

/-- A plus sign and zeros belong to a number, and a lone plus sign is a key. The lower case of the
Kelvin sign is a letter of ASCII, and that of a capital with a dot is two characters. -/
example : ["\t+007 ", "+", "18446744073709551616", "BAC\u212a", "\u212a", "\u0130"].map ofLine =
    [some (.number 7), some (.key '+'), none, some .cancel, some (.key 'k'), none] := by
  decide +kernel

end Parley.InputEvent
