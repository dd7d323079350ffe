import Parley.Random.Keystream

/-!
# Sources of random numbers

A source is a place in a stream of words. It is seeded with one number, and it draws numbers below
a bound so that each is equally likely: draws that would favour some numbers are repeated.
-/

namespace Parley.Random

/-- A place in a stream. -/
structure Source where
  key : Key
  position : Nat

/-- How many bits one draw takes from the stream. -/
inductive Width where
  /-- One word. -/
  | single
  /-- Two words. -/
  | double

/-- The number of bits of a width. -/
def Width.bits : Width → Nat
  | .single => 32
  | .double => 64

/-- How many numbers there are of a width. -/
def Width.count : Width → Nat
  | .single => 4294967296
  | .double => 18446744073709551616

namespace Source

/-- The next state of the generator that stretches a seed. -/
def stretch (state : UInt64) : UInt64 :=
  state * 6364136223846793005 + 11634580027462260723

/-- The word that a state of that generator stands for. -/
def stretchedWord (state : UInt64) : UInt32 :=
  let x := (((state >>> 18) ^^^ state) >>> 27).toUInt32
  let turn := (state >>> 59).toUInt32
  (x >>> turn) ||| (x <<< ((32 - turn) % 32))

/-- The state after a number of steps. -/
def stretched (seed : UInt64) : Nat → UInt64
  | 0 => seed
  | n + 1 => stretch (stretched seed n)

/-- The source of a seed, at the beginning of its stream. -/
def ofSeed (seed : UInt64) : Source :=
  ⟨Vector.ofFn fun i => stretchedWord (stretched seed (i.val + 1)), 0⟩

/-- The next number of the given width; of two words the first is the lower half. -/
def next (width : Width) (s : Source) : Nat × Source :=
  match width with
  | .single => ((word s.key s.position).toNat, { s with position := s.position + 1 })
  | .double =>
    ((word s.key s.position).toNat + Width.single.count * (word s.key (s.position + 1)).toNat,
      { s with position := s.position + 2 })

/-- The largest lower half of a product for which a draw below `n` is kept. -/
def zone (width : Width) (n : Nat) : Nat :=
  n <<< (width.bits - 1 - n.log2) - 1

/-- Draws below `n` until a draw is kept, at most `attempts` more times. -/
def drawWithin (width : Width) (n : Nat) : (attempts : Nat) → Source → Nat × Source
  | 0, s =>
    let (v, s) := s.next width
    (v * n / width.count, s)
  | attempts + 1, s =>
    let (v, next) := s.next width
    if v * n % width.count ≤ zone width n then (v * n / width.count, next)
    else drawWithin width n attempts next

/-- Draws a number below `n`, which is not zero. A draw is repeated with a chance below one half,
so that a thousand attempts leave nothing to be seen of their limit. -/
def draw (width : Width) (n : Nat) (s : Source) : Nat × Source :=
  drawWithin width n 1000 s

/-- A random element of a list; the empty list has none and takes no draw. -/
def choose {α : Type} (width : Width) (xs : List α) (s : Source) : Option α × Source :=
  if xs.isEmpty then (none, s)
  else
    let (i, s) := s.draw width xs.length
    (xs[i]?, s)

end Source

end Parley.Random
