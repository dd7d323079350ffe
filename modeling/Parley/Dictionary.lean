/-!
# Dictionaries

Values under text keys, kept in the order of their keys. Keys are compared by code points, which is
also the order of their UTF-8 bytes. Each key occurs once; the last value given to it counts.
-/

namespace Parley

/-- Entries of a dictionary: keys with their values. -/
abbrev Entries (α : Type) := List (String × α)

namespace Entries

/-- Puts a value under a key, in the place of an older value if there is one. -/
def insert {α : Type} (key : String) (value : α) : Entries α → Entries α
  | [] => [(key, value)]
  | (k, v) :: rest =>
    if key < k then (key, value) :: (k, v) :: rest
    else if key = k then (key, value) :: rest
    else (k, v) :: insert key value rest

/-- Strictly increasing keys. -/
def Sorted {α : Type} (es : Entries α) : Prop :=
  es.Pairwise fun a b => a.1 < b.1

/-- The keys after an insertion are the old ones and the new one. -/
theorem mem_insert {α : Type} {key : String} {value : α} {es : Entries α} {e : String × α}
    (h : e ∈ es.insert key value) : e = (key, value) ∨ e ∈ es := by
  induction es with
  | nil => simp_all [insert]
  | cons head rest ih =>
    obtain ⟨k, v⟩ := head
    simp only [insert] at h
    split at h
    · simpa using h
    · split at h
      · rcases List.mem_cons.1 h with h | h
        · exact .inl h
        · exact .inr (List.mem_cons_of_mem _ h)
      · rcases List.mem_cons.1 h with h | h
        · exact .inr (h ▸ List.mem_cons_self)
        · exact (ih h).imp_right (List.mem_cons_of_mem _)

/-- Insertion keeps the keys strictly increasing. -/
theorem Sorted.insert {α : Type} {es : Entries α} (h : es.Sorted) (key : String) (value : α) :
    (es.insert key value).Sorted := by
  induction es with
  | nil => simp [Entries.insert, Sorted]
  | cons head rest ih =>
    obtain ⟨k, v⟩ := head
    obtain ⟨first, others⟩ := List.pairwise_cons.1 h
    simp only [Entries.insert]
    split
    · rename_i below
      refine List.pairwise_cons.2 ⟨fun e he => ?_, h⟩
      rcases List.mem_cons.1 he with rfl | he
      · exact below
      · exact String.lt_trans below (first e he)
    · split
      · rename_i same
        subst same
        exact List.pairwise_cons.2 ⟨first, others⟩
      · rename_i notBelow different
        refine List.pairwise_cons.2 ⟨fun e he => ?_, ih others⟩
        rcases mem_insert he with rfl | he
        · rcases Decidable.em (k < key) with above | notAbove
          · exact above
          · exact absurd (String.le_antisymm notAbove notBelow) different
        · exact first e he

/-- The value under a key. -/
def find? {α : Type} (key : String) : Entries α → Option α
  | [] => none
  | (k, v) :: rest => if key = k then some v else find? key rest

/-- Looking up the key that was inserted gives the new value. -/
theorem find?_insert_self {α : Type} (key : String) (value : α) (es : Entries α) :
    (es.insert key value).find? key = some value := by
  induction es with
  | nil => simp [insert, find?]
  | cons head rest ih =>
    obtain ⟨k, v⟩ := head
    simp only [insert]
    split
    · simp [find?]
    · split
      · simp [find?]
      · rename_i different
        simp [find?, different, ih]

/-- Looking up any other key gives what it gave before. -/
theorem find?_insert_of_ne {α : Type} {key other : String} (h : other ≠ key) (value : α)
    (es : Entries α) : (es.insert key value).find? other = es.find? other := by
  induction es with
  | nil => simp [insert, find?, h]
  | cons head rest ih =>
    obtain ⟨k, v⟩ := head
    simp only [insert]
    split
    · simp [find?, h]
    · split
      · rename_i same
        subst same
        simp [find?, h]
      · simp [find?, ih]

/-- A key above all others goes to the end. -/
theorem insert_last {α : Type} {key : String} {es : Entries α} (above : ∀ e ∈ es, e.1 < key)
    (value : α) : es.insert key value = es ++ [(key, value)] := by
  induction es with
  | nil => rfl
  | cons head rest ih =>
    obtain ⟨k, v⟩ := head
    have first : k < key := above (k, v) List.mem_cons_self
    have notBelow : ¬ key < k := fun below => String.lt_irrefl k (String.lt_trans first below)
    have different : key ≠ k := fun same => String.lt_irrefl k (same ▸ first)
    rw [insert, if_neg notBelow, if_neg different,
      ih fun e he => above e (List.mem_cons_of_mem _ he), List.cons_append]

end Entries

/-- A dictionary: entries with strictly increasing keys. -/
structure Dictionary (α : Type) where
  entries : Entries α
  sorted : entries.Sorted

namespace Dictionary

variable {α : Type}

/-- The dictionary without entries. -/
def empty : Dictionary α := ⟨[], List.Pairwise.nil⟩

/-- The value under a key. -/
def get? (d : Dictionary α) (key : String) : Option α := d.entries.find? key

/-- Puts a value under a key. -/
def insert (d : Dictionary α) (key : String) (value : α) : Dictionary α :=
  ⟨d.entries.insert key value, d.sorted.insert key value⟩

/-- The dictionary of a list of entries; of several values for one key the last counts. -/
def ofList (es : List (String × α)) : Dictionary α :=
  es.foldl (fun d (key, value) => d.insert key value) empty

/-- The keys in order. -/
def keys (d : Dictionary α) : List String := d.entries.map (·.1)

/-- The number of entries. -/
def size (d : Dictionary α) : Nat := d.entries.length

/-- Whether a key has a value. -/
def contains (d : Dictionary α) (key : String) : Bool := (d.get? key).isSome

/-- The key that was inserted has the new value. -/
@[simp] theorem get?_insert_self (d : Dictionary α) (key : String) (value : α) :
    (d.insert key value).get? key = some value :=
  Entries.find?_insert_self key value d.entries

/-- All other keys have the values that they had. -/
theorem get?_insert_of_ne (d : Dictionary α) {key other : String} (h : other ≠ key) (value : α) :
    (d.insert key value).get? other = d.get? other :=
  Entries.find?_insert_of_ne h value d.entries

/-- The empty dictionary has no values. -/
@[simp] theorem get?_empty (key : String) : (empty : Dictionary α).get? key = none := rfl

/-- Of several values for one key the last counts. -/
theorem get?_ofList (es : List (String × α)) (key : String) :
    (ofList es).get? key = Entries.find? key es.reverse := by
  have concat (es : List (String × α)) (d : Dictionary α) :
      (es.reverse.foldl (fun d (key, value) => d.insert key value) d).get? key =
        (Entries.find? key es).or (d.get? key) := by
    induction es with
    | nil => rfl
    | cons head rest ih =>
      obtain ⟨k, v⟩ := head
      rw [List.reverse_cons, List.foldl_append, List.foldl_cons, List.foldl_nil, Entries.find?]
      by_cases same : key = k
      · subst same
        rw [get?_insert_self, if_pos rfl]
        rfl
      · rw [get?_insert_of_ne _ same, if_neg same, ih]
  have last := concat es.reverse empty
  rw [List.reverse_reverse] at last
  rw [ofList, last, get?_empty, Option.or_none]

/-- A dictionary is the one of its entries. -/
theorem ofList_entries (d : Dictionary α) : ofList d.entries = d := by
  have append (es : Entries α) (d : Dictionary α) (sorted : (d.entries ++ es).Sorted) :
      (es.foldl (fun d (key, value) => d.insert key value) d).entries = d.entries ++ es := by
    induction es generalizing d with
    | nil => exact (List.append_nil _).symm
    | cons head rest ih =>
      obtain ⟨k, v⟩ := head
      obtain ⟨_, _, between⟩ := List.pairwise_append.1 sorted
      have last : (d.insert k v).entries = d.entries ++ [(k, v)] :=
        Entries.insert_last (fun e he => between e he _ List.mem_cons_self) v
      have split : (d.insert k v).entries ++ rest = d.entries ++ (k, v) :: rest := by
        rw [last, List.append_assoc, List.singleton_append]
      rw [List.foldl_cons, ih _ (split ▸ sorted), split]
  obtain ⟨entries, sorted⟩ := d
  have same := append entries empty sorted
  rw [ofList]
  generalize List.foldl _ _ _ = d at same
  obtain ⟨_, _⟩ := d
  cases same
  rfl

end Dictionary

end Parley
