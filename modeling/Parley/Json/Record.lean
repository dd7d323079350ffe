import Parley.Json.Reader

/-!
# Reading records

A record is written as an object with the names of its fields, in any order and among others that
are passed over, or as a list of its fields in order. A `Layout` describes the fields; what was
read so far is a partial record, in which every field may still be missing.
-/

namespace Parley.Json.Reader

/-- One field of a record, over the type of partial records. -/
structure Field (σ : Type) where
  name : String
  /-- Whether the field must be written. -/
  required : Bool
  /-- Whether the field was read. -/
  isSet : σ → Bool
  /-- Reads the field's value into a partial record. -/
  read : (depth : Nat) → σ → Reader σ

/-- The fields of a record, and what it is called in faults. -/
structure Layout (σ : Type) where
  title : String
  fields : List (Field σ)

namespace Layout

variable {σ : Type}

/-- The description of the record in faults of its length. -/
def lengthTitle (l : Layout σ) : String :=
  l.title ++ " with " ++ Decimal.ofNat l.fields.length ++
    if l.fields.length = 1 then " element" else " elements"

/-- Reads one member of a record written as an object. -/
def member (l : Layout σ) (depth : Nat) (name : String) (record : σ) : Reader σ :=
  match l.fields.find? (·.name == name) with
  | some field =>
    if field.isSet record then
      throw (.duplicateField name)
    else do
      colon
      field.read depth record
  | none => do
    colon
    skip
    return record

/-- Checks that all required fields were read; the first one that is missing is at fault. -/
def complete (l : Layout σ) (record : σ) : Reader σ :=
  match l.fields.find? fun field => field.required && !field.isSet record with
  | some field => throw (.missingField field.name)
  | none => return record

/-- Reads the fields of a record written as a list, from position `index` on; the first required
one that is missing is at fault. -/
def positional (l : Layout σ) (depth : Nat) : List (Field σ) → (index : Nat) → σ → Reader σ
  | [], _, record => return record
  | field :: rest, index, record => do
    if ← hasItem (index == 0) then do
      let next ← field.read depth record
      positional l depth rest (index + 1) next
    else
      match (field :: rest).findIdx? (·.required) with
      | some skipped => throw (.invalidLength (index + skipped) l.lengthTitle)
      | none => return record

/-- Reads a record on top of a partial one in which no field is set. -/
def read (l : Layout σ) (blank : σ) (depth : Nat) : Reader σ := do
  let c ← valueStart
  if c = '[' then
    match depth with
    | 0 => throw .tooDeep
    | depth + 1 => do
      advance
      let record ← l.positional depth l.fields 0 blank
      listEnd
      return record
  else if c = '\x7b' then
    match depth with
    | 0 => throw .tooDeep
    | depth + 1 => do
      advance
      let record ← objectRest (l.member depth) blank
      l.complete record
  else
    wrongType l.title

end Layout

/-- A field that was read, or the fault that it is missing. -/
def require {α : Type} (name : String) (field : Option α) : Reader α :=
  match field with
  | some x => return x
  | none => throw (.missingField name)

end Parley.Json.Reader
