import Parley.Json.Reader

/-!
# Node keys

The name of a node within one conversation graph. A number names the same node as its decimal
text, so that `0` and `"0"` are one key.
-/

namespace Parley

/-- The name of a node. -/
structure Key where
  name : String
deriving DecidableEq

namespace Key

/-- The key that an integer stands for. -/
def ofInt (i : Int) : Key := ⟨Decimal.ofInt i⟩

/-- The key at which conversations start by default. -/
def entry : Key := ofInt 0

/-- A key as a JSON value. -/
def toValue (k : Key) : Json.Value := .string k.name

/-- The key that a JSON value stands for: an integer of 64 bits, or a text. -/
def ofValue? : Json.Value → Option Key
  | .number (.int i) => if Decimal.isSigned i then some (ofInt i) else none
  | .string s => some ⟨s⟩
  | _ => none

/-- Reads a key. -/
def read (depth : Nat) : Json.Reader Key := do
  match ofValue? (← Json.Reader.value depth) with
  | some k => return k
  | none => throw (.noVariant "Raw")

/-- Reads a list of keys. -/
def readList (depth : Nat) : Json.Reader (List Key) :=
  Json.Reader.list depth read

/-- A list of keys as JSON text. -/
def listText (keys : List Key) : String :=
  (Json.Value.array (keys.map toValue)).text

end Key

end Parley
