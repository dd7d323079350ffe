/-!
# Sets of characters

A set of characters is kept as the code points at which membership changes, in ascending order. All
operations that join two sets are then one walk along both lists. No set holds a surrogate, for
surrogates are no characters.
-/

namespace Parley

/-- A set of characters: those from the first switch up to the second are in the set, those from the
second up to the third are not, and so on. -/
structure CharSet where
  switches : List Nat
deriving DecidableEq

namespace CharSet

/-- Whether a code point is inside, if the code points in front of the first switch are inside or
outside as given. -/
def parity : (inside : Bool) → List Nat → Nat → Bool
  | inside, [], _ => inside
  | inside, s :: rest, n => if n < s then inside else parity (!inside) rest n

/-- Whether a character is in a set. -/
def contains (s : CharSet) (c : Char) : Bool := parity false s.switches c.toNat

/-! ## Making sets -/

/-- The set without characters. -/
def empty : CharSet := ⟨[]⟩

/-- All characters. -/
def all : CharSet := ⟨[0, 0xd800, 0xe000, 0x110000]⟩

/-- All characters between two, both included. -/
def range (first last : Char) : CharSet :=
  if first.toNat < 0xd800 ∧ 0xe000 ≤ last.toNat then
    ⟨[first.toNat, 0xd800, 0xe000, last.toNat + 1]⟩
  else
    ⟨[first.toNat, last.toNat + 1]⟩

/-- A single character. -/
def singleton (c : Char) : CharSet := ⟨[c.toNat, c.toNat + 1]⟩

/-- The switches of the set of some code points in ascending order. -/
def switchesOf : List Nat → List Nat
  | [] => []
  | n :: rest =>
    match switchesOf rest with
    | [] => [n, n + 1]
    | first :: behind =>
      if first = n then first :: behind
      else if first = n + 1 then n :: behind
      else n :: (n + 1) :: first :: behind

/-- The set of some code points in any order. -/
def ofCodes (ns : List Nat) : CharSet := ⟨switchesOf (ns.mergeSort (· ≤ ·))⟩

/-- The characters of a list. -/
def ofList (cs : List Char) : CharSet := ofCodes (cs.map Char.toNat)

/-! ## Joining sets -/

/-- A switch, unless membership is the same on both of its sides. -/
def emit (before behind : Bool) (n : Nat) (rest : List Nat) : List Nat :=
  if before == behind then rest else n :: rest

/-- Walks along the switches of two sets; `a` and `b` tell whether the code points in front are in
them. -/
def joinSwitches (op : Bool → Bool → Bool) (a b : Bool) : List Nat → List Nat → List Nat
  | [], [] => []
  | n :: ns, [] => emit (op a b) (op (!a) b) n (joinSwitches op (!a) b ns [])
  | [], m :: ms => emit (op a b) (op a (!b)) m (joinSwitches op a (!b) [] ms)
  | n :: ns, m :: ms =>
    if n < m then emit (op a b) (op (!a) b) n (joinSwitches op (!a) b ns (m :: ms))
    else if m < n then emit (op a b) (op a (!b)) m (joinSwitches op a (!b) (n :: ns) ms)
    else emit (op a b) (op (!a) (!b)) n (joinSwitches op (!a) (!b) ns ms)
termination_by ns ms => ns.length + ms.length

/-- Joins two sets. What is in neither of them must not be in the result. -/
def join (op : Bool → Bool → Bool) (s t : CharSet) : CharSet :=
  ⟨joinSwitches op false false s.switches t.switches⟩

/-- The characters of either set. -/
def union (s t : CharSet) : CharSet := s.join (· || ·) t

/-- The characters of both sets. -/
def inter (s t : CharSet) : CharSet := s.join (· && ·) t

/-- The characters of the first set that are not in the second. -/
def diff (s t : CharSet) : CharSet := s.join (fun a b => a && !b) t

/-- The characters of exactly one of two sets. -/
def symmDiff (s t : CharSet) : CharSet := s.join xor t

/-- The characters that are not in a set. -/
def complement (s : CharSet) : CharSet := all.diff s

/-- The characters of any of some sets. -/
def unionAll (sets : List CharSet) : CharSet := sets.foldl union empty

/-! ## Taking sets apart -/

/-- The stretches between switches. -/
def pairs : List Nat → List (Nat × Nat)
  | first :: stop :: rest => (first, stop - 1) :: pairs rest
  | _ => []

/-- The ranges of a set as first and last code points, in ascending order. -/
def ranges (s : CharSet) : List (Nat × Nat) := pairs s.switches

/-- The code point of a set that holds exactly one character. -/
def single? (s : CharSet) : Option Nat :=
  match s.switches with
  | [n, m] => if m = n + 1 then some n else none
  | _ => none

end CharSet

end Parley
