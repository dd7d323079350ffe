import Parley.Dialogue.Key
import Parley.Random.Source

/-!
# Frontiers

The keys that a conversation may still enter at random. A key that occurs twice is twice as likely
to be drawn.
-/

namespace Parley

/-- The keys that may be drawn, oldest first. -/
structure Frontier where
  keys : List Key
deriving DecidableEq

namespace Frontier

/-- Nothing to draw. -/
def empty : Frontier := ⟨[]⟩

/-- Adds a key at the end. -/
def push (f : Frontier) (key : Key) : Frontier := ⟨f.keys ++ [key]⟩

/-- Adds keys at the end. -/
def extend (f : Frontier) (keys : List Key) : Frontier := ⟨f.keys ++ keys⟩

/-- Where a key occurs first. -/
def position? (f : Frontier) (key : Key) : Option Nat := f.keys.findIdx? (· == key)

/-- Takes out the first occurrence of a key, if there is one. -/
def remove (f : Frontier) (key : Key) : Frontier := ⟨f.keys.erase key⟩

/-- Puts a key back where it was taken out, or as close to it as there is room. -/
def restore (f : Frontier) (key : Key) : (place : Option Nat) → Frontier
  | some index => ⟨f.keys.insertIdx (min index f.keys.length) key⟩
  | none => f

/-- Whether a key occurs. -/
def contains (f : Frontier) (key : Key) : Bool := f.keys.contains key

/-- How often a key occurs. -/
def count (f : Frontier) (key : Key) : Nat := f.keys.count key

/-- The number of keys, repetitions included. -/
def size (f : Frontier) : Nat := f.keys.length

/-- Whether there is nothing to draw. -/
def isEmpty (f : Frontier) : Bool := f.keys.isEmpty

/-- Draws a key, which stays in the frontier; an empty frontier takes no random number. -/
def pick (f : Frontier) (source : Random.Source) : Option Key × Random.Source :=
  source.choose .double f.keys

end Frontier

end Parley
