import Mathlib.Data.List.Forall2
import Parley.Json.Record
import Parley.Proofs.Json.Quoted

/-!
# Reading values back

`ReadsAs item v x` says that a reader takes the text of a value for `x` and leaves what stands
behind it. Readers of lists, dictionaries and records are shown to do so if the readers of their
parts do (`readsAs_list`, `readsAs_dictionary`, `readsAs_record`), the members of an object being
read one after the other into what was read before (`Joined`).
-/

namespace Parley.Json

namespace Value

/-- The text of an array. -/
lemma itemChars_cons (v : Value) (vs : List Value) :
    itemChars (v :: vs) = v.chars ++ vs.flatMap fun w => ',' :: w.chars := by
  induction vs generalizing v with
  | nil => rw [itemChars, List.flatMap_nil, List.append_nil]
  | cons w vs ih => rw [itemChars, ih w, List.flatMap_cons, List.cons_append]

/-- The text of a member of an object. -/
def entryChars (member : String × Value) : List Char :=
  quote member.1 ++ ':' :: member.2.chars

/-- The members of an object are written with commas between them. -/
lemma memberChars_cons (m : String × Value) (ms : List (String × Value)) :
    memberChars (m :: ms) = entryChars m ++ ms.flatMap fun m => ',' :: entryChars m := by
  induction ms generalizing m with
  | nil => rw [memberChars, List.flatMap_nil, List.append_nil, entryChars]
  | cons n ms ih =>
    rw [memberChars, ih n, List.flatMap_cons]
    simp [entryChars]

end Value

namespace Reader

variable {α : Type} {c : Char} {cs rest : List Char} {depth fuel : Nat}

/-! ## The next character -/

/-- A character that is no blank is the next one. -/
lemma peek_cons (starts : isSpace c = false) (cs : List Char) :
    peek (c :: cs) = .ok (some c, c :: cs) := by
  rw [peek, List.dropWhile_cons, starts]
  rfl

/-- Going on takes one character. -/
lemma advance_cons (c : Char) (cs : List Char) : advance (c :: cs) = .ok ((), cs) := rfl

/-- A value starts at a character that is no blank. -/
lemma valueStart_cons (starts : isSpace c = false) (cs : List Char) :
    valueStart (c :: cs) = .ok (c, c :: cs) :=
  valueStart_blanks (List.forall_mem_nil _) starts cs

/-- What stands behind a part of a list or an object ends a number: a comma and the next part, or
the closing bracket. -/
lemma ends_behind {β : Type} (f : β → List Char) (parts : List β) {close : Char}
    (closes : close = ']' ∨ close = '\x7d') (rest : List Char) :
    Ends ((parts.flatMap fun part => ',' :: f part) ++ close :: rest) := by
  intro c head
  have stops : c = ',' ∨ c = ']' ∨ c = '\x7d' := by
    cases parts with
    | nil =>
      cases head
      exact .inr closes
    | cons part parts =>
      cases head
      exact .inl rfl
  obtain rfl | rfl | rfl := stops <;> decide

/-- With the comma in front of it, every part takes a character at least. -/
lemma length_le_behind {β : Type} (f : β → List Char) (parts : List β) :
    parts.length ≤ (parts.flatMap fun part => ',' :: f part).length := by
  induction parts with
  | nil => exact Nat.le_refl 0
  | cons part parts ih =>
    rw [List.flatMap_cons, List.length_append, List.length_cons, List.length_cons]
    omega

/-! ## Values without parts -/

/-- The text of a value is read as `x`, whatever stands behind it. -/
def ReadsAs (item : Reader α) (v : Value) (x : α) : Prop :=
  ∀ rest, Ends rest → item (v.chars ++ rest) = .ok (x, rest)

/-- What is made of the value afterwards takes nothing from the text. -/
lemma ReadsAs.bind {β : Type} {item : Reader α} {f : α → Reader β} {v : Value} {x : α} {y : β}
    (read : ReadsAs item v x) (made : ∀ rest, f x rest = .ok (y, rest)) :
    ReadsAs (item >>= f) v y := by
  intro rest ends
  rw [bind_of (read rest ends), made]

/-- What is read can be changed after reading. -/
lemma ReadsAs.map {β : Type} {item : Reader α} {v : Value} {x : α} (read : ReadsAs item v x)
    (f : α → β) : ReadsAs (do return f (← item)) v (f x) :=
  read.bind fun _ => rfl

/-- A value does not begin like the end of a list. -/
def Begins (v : Value) : Prop :=
  ∃ c cs, v.chars = c :: cs ∧ isSpace c = false ∧ c ≠ ']'

/-- A quoted text begins with a quote and ends with one. -/
lemma quote_append (s : String) (rest : List Char) :
    quote s ++ rest = '\"' :: (s.toList.flatMap escape ++ '\"' :: rest) := by
  simp [quote]

/-- Texts are read back. -/
lemma readsAs_string (expected : String) (s : String) :
    ReadsAs (string expected) (.string s) s := by
  intro rest _
  rw [Value.chars, quote_append, string, bind_of (valueStart_cons (by decide) _), if_pos rfl,
    bind_of (advance_cons ..)]
  exact stringRest_quote s rest

/-- Texts are read back where any value may stand. -/
lemma readsAs_value_string (depth : Nat) (s : String) :
    ReadsAs (value depth) (.string s) (.string s) := by
  intro rest _
  unfold value
  rw [Value.chars, quote_append, bind_of (valueStart_cons (by decide) _), if_neg (by decide),
    if_neg (by decide), if_neg (by decide), if_neg (by decide), if_pos rfl,
    bind_of (advance_cons ..), bind_of (stringRest_quote s rest)]
  rfl

/-- Signed integers are read back where any value may stand. -/
lemma readsAs_value_int {m : Int} (least : Decimal.minSigned ≤ m) (most : m ≤ Decimal.maxSigned)
    (depth : Nat) : ReadsAs (value depth) (.ofInt m) (.ofInt m) := by
  intro rest ends
  have below : m < Decimal.wordBound := by
    rw [Decimal.maxSigned] at most
    rw [Decimal.wordBound]
    omega
  have read := value_ofInt depth m (List.forall_mem_nil _) ends
  rw [ofDigits_int least below] at read
  exact read

/-- A text begins with a quote. -/
lemma begins_string (s : String) : Begins (.string s) :=
  ⟨'\"', _, rfl, by decide, by decide⟩

/-- An integer begins with a digit or a sign. -/
lemma begins_int (m : Int) : Begins (.ofInt m) := by
  obtain ⟨c, cs, shape, starts⟩ := ofInt_cons m
  obtain ⟨other, unblank⟩ := begins_number starts
  exact ⟨c, cs, shape, unblank, other _ (by decide)⟩

/-! ## Lists -/

/-- A closing bracket ends a list, behind an item or not. -/
lemma hasItem_close (first : Bool) (rest : List Char) :
    hasItem first (']' :: rest) = .ok (false, ']' :: rest) := by
  rw [hasItem, bind_of (peek_cons (by decide) _)]
  rfl

/-- Where no list ends, there has to be an item. -/
lemma match_begins {β : Type} (other : c ≠ ']') (ended trailing found : β) :
    (match some c with
      | none => ended
      | some ']' => trailing
      | some _ => found) = found := by
  split
  · next none => cases none
  · next same => exact absurd (Option.some.inj same) other
  · rfl

/-- A value at the place of an item is an item, the first one or one behind a comma. -/
lemma hasItem_begins {v : Value} (begins : Begins v) (rest : List Char) :
    hasItem true (v.chars ++ rest) = .ok (true, v.chars ++ rest) ∧
      hasItem false (',' :: (v.chars ++ rest)) = .ok (true, v.chars ++ rest) := by
  obtain ⟨c, cs, shape, starts, other⟩ := begins
  rw [shape, List.cons_append]
  constructor
  · rw [hasItem, bind_of (peek_cons starts _)]
    dsimp only
    rw [if_neg other, if_pos rfl]
    rfl
  · rw [hasItem, bind_of (peek_cons (by decide) _)]
    dsimp only
    rw [if_neg (by decide), if_neg (by decide), if_pos rfl, bind_of (advance_cons ..),
      bind_of (peek_cons starts _)]
    exact congrFun (match_begins other _ _ _) _

variable {vs : List Value} {xs : List α}

/-- The items behind another one are read, each with the comma in front of it. -/
lemma items_behind {item : Reader α} (enough : vs.length < fuel)
    (read : List.Forall₂ (fun v x => Begins v ∧ ReadsAs item v x) vs xs) (rest : List Char) :
    items item fuel false ((vs.flatMap fun w => ',' :: w.chars) ++ ']' :: rest) =
      .ok (xs, rest) := by
  induction read generalizing fuel with
  | nil =>
    cases fuel with
    | zero => cases enough
    | succ fuel =>
      rw [items, List.flatMap_nil, List.nil_append, bind_of (hasItem_close ..)]
      rfl
  | @cons v x vs xs first _ ih =>
    cases fuel with
    | zero => cases enough
    | succ fuel =>
      obtain ⟨begins, first⟩ := first
      have ends := ends_behind Value.chars vs (.inl rfl) rest
      rw [items, List.flatMap_cons, List.append_assoc, List.cons_append,
        bind_of (hasItem_begins begins _).2, if_pos rfl, bind_of (first _ ends),
        bind_of (ih (Nat.lt_of_succ_lt_succ enough))]
      rfl

/-- Every item takes a character at least. -/
lemma length_le_itemChars (vs : List Value) : vs.length ≤ (Value.itemChars vs).length + 1 := by
  cases vs with
  | nil => exact Nat.zero_le _
  | cons v vs =>
    have behind := length_le_behind Value.chars vs
    rw [Value.itemChars_cons, List.length_append, List.length_cons]
    omega

/-- A list is read if its items are. -/
lemma readsAs_list {item : (depth : Nat) → Reader α}
    (read : List.Forall₂ (fun v x => Begins v ∧ ReadsAs (item depth) v x) vs xs) :
    ReadsAs (list (depth + 1) item) (.array vs) xs := by
  intro rest _
  have enough := length_le_itemChars vs
  have body : listRest (item depth) (Value.itemChars vs ++ ']' :: rest) = .ok (xs, rest) := by
    show items (item depth) ((Value.itemChars vs ++ ']' :: rest).length + 1) true _ = _
    rw [List.length_append, List.length_cons]
    cases read with
    | nil =>
      rw [items, Value.itemChars, List.nil_append, bind_of (hasItem_close ..)]
      rfl
    | @cons v x vs xs first others =>
      obtain ⟨begins, first⟩ := first
      have ends := ends_behind Value.chars vs (.inl rfl) rest
      rw [List.length_cons] at enough
      have enough : vs.length < (Value.itemChars (v :: vs)).length + (rest.length + 1) := by omega
      rw [items, Value.itemChars_cons, List.append_assoc, bind_of (hasItem_begins begins _).1,
        if_pos rfl, bind_of (first _ ends), ← Value.itemChars_cons,
        bind_of (items_behind enough others rest)]
      rfl
  have shape : (Value.array vs).chars ++ rest = '[' :: (Value.itemChars vs ++ ']' :: rest) := by
    simp [Value.chars]
  rw [shape, list, bind_of (valueStart_cons (by decide) _), if_pos rfl, bind_of (advance_cons ..)]
  exact body

/-! ## Objects -/

section

variable {σ : Type} {member : String → σ → Reader σ} {ms : List (String × Value)} {s t : σ}

/-- The members of an object are read one after the other, from what was read so far to what is read
in the end. -/
inductive Joined (member : String → σ → Reader σ) : List (String × Value) → σ → σ → Prop where
  | nil {s : σ} :
    Joined member [] s s
  | cons {name : String} {v : Value} {ms : List (String × Value)} {s t u : σ} :
    (∀ rest, Ends rest → member name s (':' :: (v.chars ++ rest)) = .ok (t, rest)) →
    Joined member ms t u →
    Joined member ((name, v) :: ms) s u

/-- A closing brace ends an object, behind a member or not. -/
lemma hasMember_close (first : Bool) (rest : List Char) :
    hasMember first ('\x7d' :: rest) = .ok (false, '\x7d' :: rest) := by
  rw [hasMember, bind_of (peek_cons (by decide) _)]
  rfl

/-- A quote at the place of a member begins one, the first one or one behind a comma. -/
lemma hasMember_quote (cs : List Char) :
    hasMember true ('\"' :: cs) = .ok (true, '\"' :: cs) ∧
      hasMember false (',' :: '\"' :: cs) = .ok (true, '\"' :: cs) := by
  constructor
  · rw [hasMember, bind_of (peek_cons (by decide) _)]
    rfl
  · rw [hasMember, bind_of (peek_cons (by decide) _)]
    dsimp only
    rw [if_neg (by decide), if_neg (by decide), if_pos rfl, bind_of (advance_cons ..),
      bind_of (peek_cons (by decide) _)]
    rfl

/-- A member is written as its quoted name, a colon and its value. -/
lemma entryChars_append (name : String) (v : Value) (rest : List Char) :
    Value.entryChars (name, v) ++ rest =
      '\"' :: (name.toList.flatMap escape ++ '\"' :: ':' :: (v.chars ++ rest)) := by
  simp [Value.entryChars, quote]

/-- A member is read into what was read so far, and then the ones behind it. -/
lemma members_step {first : Bool} {name : String} {v : Value}
    (has : hasMember first cs = .ok (true, Value.entryChars (name, v) ++ rest))
    (read : member name s (':' :: (v.chars ++ rest)) = .ok (t, rest)) :
    members member (fuel + 1) first s cs = members member fuel false t rest := by
  rw [entryChars_append] at has
  rw [members, bind_of has, if_pos rfl, bind_of (advance_cons ..), bind_of (stringRest_quote ..),
    bind_of read]

/-- The members behind the first are read one after the other, each with the comma before it. -/
lemma members_behind (enough : ms.length < fuel) (joined : Joined member ms s t)
    (rest : List Char) :
    members member fuel false s
      ((ms.flatMap fun m => ',' :: Value.entryChars m) ++ '\x7d' :: rest) = .ok (t, rest) := by
  induction joined generalizing fuel with
  | nil =>
    cases fuel with
    | zero => cases enough
    | succ fuel =>
      rw [members, List.flatMap_nil, List.nil_append, bind_of (hasMember_close ..)]
      rfl
  | @cons name v ms s t u first _ ih =>
    cases fuel with
    | zero => cases enough
    | succ fuel =>
      -- what ends the value of this member is the next comma or the brace
      have ends := ends_behind Value.entryChars ms (.inr rfl) rest
      rw [← ih (Nat.lt_of_succ_lt_succ enough), List.flatMap_cons, List.append_assoc,
        List.cons_append]
      refine members_step ?_ (first _ ends)
      rw [entryChars_append]
      exact (hasMember_quote _).2

/-- The members of an object are read up to its closing bracket. -/
lemma objectRest_joined (joined : Joined member ms s t) (rest : List Char) :
    objectRest member s (Value.memberChars ms ++ '\x7d' :: rest) = .ok (t, rest) := by
  show members member ((Value.memberChars ms ++ '\x7d' :: rest).length + 1) true s _ = _
  cases joined with
  | nil =>
    rw [members, Value.memberChars, List.nil_append, bind_of (hasMember_close ..)]
    rfl
  | @cons name v ms _ u _ first others =>
    have ends := ends_behind Value.entryChars ms (.inr rfl) rest
    have enough : ms.length < (Value.memberChars ((name, v) :: ms) ++ '\x7d' :: rest).length := by
      have behind := length_le_behind Value.entryChars ms
      rw [Value.memberChars_cons, List.length_append, List.length_append, List.length_cons]
      omega
    rw [← members_behind enough others rest]
    refine members_step ?_ (first _ ends)
    rw [Value.memberChars_cons, List.append_assoc, entryChars_append]
    exact (hasMember_quote _).1

/-- An object is written between braces. -/
lemma object_append (ms : List (String × Value)) (rest : List Char) :
    (Value.object ms).chars ++ rest = '\x7b' :: (Value.memberChars ms ++ '\x7d' :: rest) := by
  simp [Value.chars]

end

/-- A colon is taken where one has to stand. -/
lemma colon_cons (cs : List Char) : colon (':' :: cs) = .ok ((), cs) := by
  rw [colon, bind_of (peek_cons (by decide) _)]
  rfl

/-- The members of a dictionary are put into it one after the other. -/
lemma joined_entries {item : Reader α} {ms : List (String × Value)} {es : List (String × α)}
    (read : List.Forall₂ (fun m e => m.1 = e.1 ∧ ReadsAs item m.2 e.2) ms es) (d : Dictionary α) :
    Joined (entry item) ms d (es.foldl (fun d (key, value) => d.insert key value) d) := by
  induction read generalizing d with
  | nil => exact .nil
  | @cons m e ms es first _ ih =>
    obtain ⟨name, v⟩ := m
    obtain ⟨_, x⟩ := e
    obtain ⟨rfl, first⟩ := first
    refine .cons (fun rest ends => ?_) (ih _)
    rw [entry, bind_of (colon_cons _), bind_of (first rest ends)]
    rfl

/-- A dictionary is read if its values are. -/
lemma readsAs_dictionary {item : (depth : Nat) → Reader α} {ms : List (String × Value)}
    {es : List (String × α)}
    (read : List.Forall₂ (fun m e => m.1 = e.1 ∧ ReadsAs (item depth) m.2 e.2) ms es) :
    ReadsAs (dictionary (depth + 1) item) (.object ms) (.ofList es) := by
  intro rest _
  rw [object_append, dictionary, bind_of (valueStart_cons (by decide) _), if_pos rfl,
    bind_of (advance_cons ..)]
  exact objectRest_joined (joined_entries read .empty) rest

/-- A member of a record is read into the field of its name, which was not set before. -/
lemma member_of_field {σ : Type} {l : Layout σ} {field : Field σ} {name : String} {v : Value}
    {record next : σ} (found : l.fields.find? (·.name == name) = some field)
    (unset : field.isSet record = false) (read : ReadsAs (field.read depth record) v next) :
    ∀ rest, Ends rest → l.member depth name record (':' :: (v.chars ++ rest)) = .ok (next, rest) := by
  intro rest ends
  rw [Layout.member, found]
  dsimp only
  rw [if_neg (by rw [unset]; exact Bool.false_ne_true), bind_of (colon_cons _)]
  exact read rest ends

/-- A record is read if its fields are, and no field that is required is missing. -/
lemma readsAs_record {σ : Type} {l : Layout σ} {blank record : σ} {ms : List (String × Value)}
    (joined : Joined (l.member depth) ms blank record)
    (complete : l.fields.find? (fun field => field.required && !field.isSet record) = none) :
    ReadsAs (l.read blank (depth + 1)) (.object ms) record := by
  intro rest _
  have complete : l.complete record rest = .ok (record, rest) := by
    rw [Layout.complete, complete]
    rfl
  rw [object_append, Layout.read, bind_of (valueStart_cons (by decide) _), if_neg (by decide),
    if_pos rfl, bind_of (advance_cons ..), bind_of (objectRest_joined joined rest)]
  exact complete

/-! ## Whole texts -/

/-- The text of a value is read whole. -/
lemma ofText_readsAs {item : (depth : Nat) → Reader α} {v : Value} {x : α}
    (read : ReadsAs (item maxDepth) v x) : ofText item v.text = .ok x := by
  have whole := read [] nofun
  rw [List.append_nil] at whole
  rw [ofText, Value.text, String.toList_ofList, bind_of whole]
  rfl

end Reader

end Parley.Json
