/-!
# A stream of pseudorandom words

The ChaCha stream with twelve rounds: a key of eight words determines an endless sequence of 32-bit
words, of which any one can be computed from its position. Sixteen words make a block.
-/

namespace Parley.Random

/-- The key of a stream. -/
abbrev Key := Vector UInt32 8

/-- The sixteen words that are mixed into a block. -/
abbrev Block := Vector UInt32 16

namespace Block

/-- Rotates a word to the left. -/
def rotate (w turn : UInt32) : UInt32 :=
  (w <<< turn) ||| (w >>> (32 - turn))

/-- One quarter round on the words at four places. -/
def quarterRound (a b c d : Fin 16) (s : Block) : Block :=
  let s := s.set a (s[a] + s[b])
  let s := s.set d (rotate (s[d] ^^^ s[a]) 16)
  let s := s.set c (s[c] + s[d])
  let s := s.set b (rotate (s[b] ^^^ s[c]) 12)
  let s := s.set a (s[a] + s[b])
  let s := s.set d (rotate (s[d] ^^^ s[a]) 8)
  let s := s.set c (s[c] + s[d])
  s.set b (rotate (s[b] ^^^ s[c]) 7)

/-- A round over the columns and a round over the diagonals. -/
def doubleRound (s : Block) : Block :=
  let s := quarterRound 0 4 8 12 s
  let s := quarterRound 1 5 9 13 s
  let s := quarterRound 2 6 10 14 s
  let s := quarterRound 3 7 11 15 s
  let s := quarterRound 0 5 10 15 s
  let s := quarterRound 1 6 11 12 s
  let s := quarterRound 2 7 8 13 s
  quarterRound 3 4 9 14 s

/-- A number of double rounds. -/
def doubleRounds : Nat → Block → Block
  | 0, s => s
  | n + 1, s => doubleRounds n (doubleRound s)

/-- The words before mixing: constants, key, block counter, and an empty stream number. -/
def start (key : Key) (counter : Nat) : Block :=
  let constants : Vector UInt32 4 := #v[0x61707865, 0x3320646e, 0x79622d32, 0x6b206574]
  let place : Vector UInt32 4 := #v[UInt32.ofNat counter, UInt32.ofNat (counter >>> 32), 0, 0]
  constants ++ key ++ place

/-- The block with the given number. -/
def ofKey (key : Key) (counter : Nat) : Block :=
  let s := start key counter
  (doubleRounds 6 s).zipWith (· + ·) s

end Block

/-- The word at a position of the stream. -/
def word (key : Key) (position : Nat) : UInt32 :=
  (Block.ofKey key (position / 16)).get ⟨position % 16, Nat.mod_lt _ (by decide)⟩

end Parley.Random
