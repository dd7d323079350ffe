import Parley.Proofs.Json.Number

/-!
# Reading strings back

What a character is written as is read as that character (`stringChars_escape`), so a string between
quotes is read back whatever characters it has (`stringRest_quote`).
-/

namespace Parley.Json.Reader

open Text.Quoted (hexText)

variable {c : Char} {cs rest : List Char} {s : String}

/-- A character between the quotes, and those behind it. -/
lemma stringChars_escaped {fuel : Nat} (read : escaped cs = .ok (c, rest)) :
    stringChars (fuel + 1) ('\\' :: cs) =
      (stringChars fuel rest).map fun more => (c :: more.1, more.2) := by
  show (escaped >>= fun c => stringChars fuel >>= fun more => pure (c :: more)) cs = _
  rw [bind_of read]
  show Except.bind (stringChars fuel rest) _ = _
  cases stringChars fuel rest <;> rfl

/-- A control character is read from its number, which is written in four hexadecimal digits. -/
lemma escaped_control (control : c.toNat < 0x20) (rest : List Char) :
    escaped ('u' :: (List.replicate (4 - (hexText c.toNat).length) '0' ++ hexText c.toNat) ++
      rest) = .ok (c, rest) := by
  have all : ∀ n < 0x20, List.replicate (4 - (hexText n).length) '0' ++ hexText n =
        ['0', '0', Nat.digitChar (n / 16), Nat.digitChar (n % 16)] ∧
      hexDigit? (Nat.digitChar (n / 16)) = some (n / 16) ∧
      hexDigit? (Nat.digitChar (n % 16)) = some (n % 16) := by
    decide +kernel
  obtain ⟨digits, high, low⟩ := all c.toNat control
  have code : hexCode ('0' :: '0' :: Nat.digitChar (c.toNat / 16) ::
      Nat.digitChar (c.toNat % 16) :: rest) = .ok (c.toNat, rest) := by
    have zero : hexDigit? '0' = some 0 := rfl
    have whole : ((0 * 16 + 0) * 16 + c.toNat / 16) * 16 + c.toNat % 16 = c.toNat := by omega
    rw [hexCode, zero, high, low]
    dsimp only
    rw [whole]
  have plain : isLowSurrogate c.toNat = false ∧ isHighSurrogate c.toNat = false := by
    simp only [isLowSurrogate, isHighSurrogate, Bool.and_eq_false_iff, decide_eq_false_iff_not]
    omega
  rw [digits]
  show numberedChar ('0' :: '0' :: Nat.digitChar (c.toNat / 16) ::
    Nat.digitChar (c.toNat % 16) :: rest) = _
  rw [numberedChar, bind_of code, plain.1, plain.2, if_neg Bool.false_ne_true,
    if_neg Bool.false_ne_true, Char.ofNat_toNat]
  rfl

/-- A letter behind a backslash stands for what it means, unless it begins a code point. -/
lemma escaped_letter {l : Char} (other : l ≠ 'u') (means : letterEscape? l = some c)
    (rest : List Char) : escaped (l :: rest) = .ok (c, rest) := by
  rw [escaped.eq_def]
  split
  · next none => cases none
  · next same => exact absurd (List.cons.inj same).1 other
  · next same =>
    cases same
    rw [means]

/-- A character that need not be escaped is read as it stands. -/
lemma stringChars_plain (fuel : Nat) (unquoted : c ≠ '\"') (unescaped : c ≠ '\\')
    (shown : ¬ c.toNat < 0x20) (rest : List Char) :
    stringChars (fuel + 1) (c :: rest) =
      (stringChars fuel rest).map fun more => (c :: more.1, more.2) := by
  rw [stringChars]
  dsimp only
  split
  · next none => cases none
  · next same => exact absurd (List.cons.inj same).1 unquoted
  · next same => exact absurd (List.cons.inj same).1 unescaped
  · next same =>
    cases same
    rw [if_neg shown]
    show Except.bind (stringChars fuel rest) _ = _
    cases stringChars fuel rest <;> rfl

/-- What a character is written as is read as that character. -/
lemma stringChars_escape (fuel : Nat) (c : Char) (rest : List Char) :
    stringChars (fuel + 1) (escape c ++ rest) =
      (stringChars fuel rest).map fun more => (c :: more.1, more.2) := by
  have letter {l d : Char} (other : l ≠ 'u') (means : letterEscape? l = some d)
      (same : (c == d) = true) :
      stringChars (fuel + 1) ('\\' :: l :: rest) =
        (stringChars fuel rest).map fun more => (c :: more.1, more.2) := by
    cases eq_of_beq same
    exact stringChars_escaped (escaped_letter other means rest)
  rw [escape]
  -- the seven characters with a letter of their own
  iterate 7
    split
    · next same => exact letter (by decide) rfl same
  split
  · next control =>
    exact stringChars_escaped (escaped_control control rest)
  · next unquoted unescaped _ _ _ _ _ shown =>
    exact stringChars_plain fuel (mt beq_iff_eq.2 unquoted) (mt beq_iff_eq.2 unescaped) shown rest

/-- A string is read back up to its closing quote, with as much fuel as it has characters. -/
lemma stringChars_chars {fuel : Nat} (cs : List Char) (enough : cs.length < fuel)
    (rest : List Char) : stringChars fuel (cs.flatMap escape ++ '\"' :: rest) = .ok (cs, rest) := by
  induction cs generalizing fuel with
  | nil =>
    cases fuel with
    | zero => cases enough
    | succ fuel => rfl
  | cons c cs ih =>
    cases fuel with
    | zero => cases enough
    | succ fuel =>
      rw [List.flatMap_cons, List.append_assoc, stringChars_escape,
        ih (Nat.lt_of_succ_lt_succ enough)]
      rfl

/-- No character is written as nothing. -/
lemma length_le_escape (cs : List Char) : cs.length ≤ (cs.flatMap escape).length := by
  have one (c : Char) : 1 ≤ (escape c).length := by
    rw [escape]
    repeat' split
    all_goals exact Nat.succ_pos _
  induction cs with
  | nil => exact Nat.le_refl 0
  | cons c cs ih =>
    rw [List.flatMap_cons, List.length_append, List.length_cons, Nat.add_comm]
    exact Nat.add_le_add (one c) ih

/-- A string between quotes is read back. -/
lemma stringRest_quote (s : String) (rest : List Char) :
    stringRest (s.toList.flatMap escape ++ '\"' :: rest) = .ok (s, rest) := by
  have enough : s.toList.length <
      (s.toList.flatMap escape ++ '\"' :: rest).length + 1 := by
    have least := length_le_escape s.toList
    rw [List.length_append]
    omega
  show Except.bind (stringChars _ (s.toList.flatMap escape ++ '\"' :: rest)) _ = _
  rw [stringChars_chars s.toList enough rest]
  show Except.ok (String.ofList s.toList, rest) = _
  rw [String.ofList_toList]

end Parley.Json.Reader
