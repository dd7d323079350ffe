import Parley.Json.Reader

/-!
# Items and collections

The things that the player can hold up to a character, in collections that the host provides, each
under its kind.
-/

namespace Parley

/-- Something that can be presented. -/
structure Item where
  name : String
deriving DecidableEq

/-- Reads the name of an item. -/
def Item.read (_depth : Nat) : Json.Reader Item := do
  return ⟨← Json.Reader.string "a string"⟩

/-- The collections of a host, by kind. -/
structure Collections where
  byKind : Dictionary (List Item)

namespace Collections

/-- No collections. -/
def empty : Collections := ⟨.empty⟩

/-- Offers items under a kind, in the place of those that were offered before. -/
def register (c : Collections) (kind : String) (items : List Item) : Collections :=
  ⟨c.byKind.insert kind items⟩

/-- The items under a kind. -/
def resolve? (c : Collections) (kind : String) : Option (List Item) := c.byKind.get? kind

/-- The kinds in order. -/
def kinds (c : Collections) : List String := c.byKind.keys

/-- The collections as a JSON object. -/
def toValue (c : Collections) : Json.Value :=
  .object (c.byKind.entries.map fun (kind, items) => (kind, .array (items.map (.string ·.name))))

/-- The collections as JSON text. -/
def text (c : Collections) : String := c.toValue.text

/-- Reads collections. -/
def read (depth : Nat) : Json.Reader Collections := do
  return ⟨← Json.Reader.dictionary depth fun depth => Json.Reader.list depth Item.read⟩

/-- Reads collections from their text. -/
def parse (text : String) : Except Json.Fault Collections := Json.Reader.ofText read text

end Collections

end Parley
