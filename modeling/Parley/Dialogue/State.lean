import Parley.Json.Reader

/-!
# The state of a character

The free-form variables of one character. Only actions change them. A counter is a variable that
holds an integer of 64 bits; adding to it stops at the ends of that range.
-/

namespace Parley

/-- The variables of a character. -/
structure State where
  values : Dictionary Json.Value

namespace State

/-- No variables. -/
def empty : State := ⟨.empty⟩

/-- The value of a variable. -/
def get? (s : State) (key : String) : Option Json.Value := s.values.get? key

/-- Gives a variable a value. -/
def set (s : State) (key : String) (value : Json.Value) : State :=
  ⟨s.values.insert key value⟩

/-- The integer that a variable holds. -/
def getInt? (s : State) (key : String) : Option Int :=
  (s.get? key).bind Json.Value.toInt?

/-- Whether a variable is a raised flag. -/
def flag (s : State) (key : String) : Bool :=
  (s.get? key).any Json.Value.isRaised

/-- The value of a counter after adding to it; a variable without an integer counts as zero. -/
def incremented (s : State) (key : String) (amount : Int) : Int :=
  Decimal.clampSigned ((s.getInt? key).getD 0 + amount)

/-- Adds to a counter. -/
def increment (s : State) (key : String) (amount : Int) : State :=
  s.set key (.ofInt (s.incremented key amount))

/-- The state as a JSON object. -/
def toValue (s : State) : Json.Value := .object s.values.entries

/-- The state as JSON text. -/
def text (s : State) : String := s.toValue.text

/-- Reads a state. -/
def read (depth : Nat) : Json.Reader State := do
  return ⟨← Json.Reader.dictionary depth Json.Reader.value⟩

/-- Reads a state from its text. -/
def parse (text : String) : Except Json.Fault State := Json.Reader.ofText read text

end State

end Parley
