import Delegation.Bytes.BigEndian

/-!
# SHA-256

The hash of some bytes in 32 bytes. The bytes are filled up to blocks of 64, and each block
changes a state of eight words in 64 rounds.
-/

namespace Delegation
namespace Sha256

/-- The constants of the rounds. -/
def roundConstants : List UInt32 := [
  0x428a2f98, 0x71374491, 0xb5c0fbcf, 0xe9b5dba5, 0x3956c25b, 0x59f111f1, 0x923f82a4, 0xab1c5ed5,
  0xd807aa98, 0x12835b01, 0x243185be, 0x550c7dc3, 0x72be5d74, 0x80deb1fe, 0x9bdc06a7, 0xc19bf174,
  0xe49b69c1, 0xefbe4786, 0x0fc19dc6, 0x240ca1cc, 0x2de92c6f, 0x4a7484aa, 0x5cb0a9dc, 0x76f988da,
  0x983e5152, 0xa831c66d, 0xb00327c8, 0xbf597fc7, 0xc6e00bf3, 0xd5a79147, 0x06ca6351, 0x14292967,
  0x27b70a85, 0x2e1b2138, 0x4d2c6dfc, 0x53380d13, 0x650a7354, 0x766a0abb, 0x81c2c92e, 0x92722c85,
  0xa2bfe8a1, 0xa81a664b, 0xc24b8b70, 0xc76c51a3, 0xd192e819, 0xd6990624, 0xf40e3585, 0x106aa070,
  0x19a4c116, 0x1e376c08, 0x2748774c, 0x34b0bcb5, 0x391c0cb3, 0x4ed8aa4a, 0x5b9cca4f, 0x682e6ff3,
  0x748f82ee, 0x78a5636f, 0x84c87814, 0x8cc70208, 0x90befffa, 0xa4506ceb, 0xbef9a3f7, 0xc67178f2]

/-- A state of eight words. -/
structure State where
  a : UInt32
  b : UInt32
  c : UInt32
  d : UInt32
  e : UInt32
  f : UInt32
  g : UInt32
  h : UInt32
  deriving DecidableEq

/-- The state before the first block. -/
def initial : State :=
  ⟨0x6a09e667, 0xbb67ae85, 0x3c6ef372, 0xa54ff53a, 0x510e527f, 0x9b05688c, 0x1f83d9ab, 0x5be0cd19⟩

/-- A word turned to the right by a number of bits between one and 31. -/
def rotateRight (word : UInt32) (bits : UInt32) : UInt32 :=
  (word >>> bits) ||| (word <<< (32 - bits))

/-- The words of a block. -/
def words : List UInt8 → List UInt32
  | a :: b :: c :: d :: bytes =>
      ((a.toUInt32 <<< 24) ||| (b.toUInt32 <<< 16) ||| (c.toUInt32 <<< 8) ||| d.toUInt32) ::
        words bytes
  | _ => []

/-- One further word from the sixteen words before it, the last one first. -/
def nextWord (before : List UInt32) : UInt32 :=
  let near := before.getD 1 0
  let far := before.getD 14 0
  let second := rotateRight near 17 ^^^ rotateRight near 19 ^^^ (near >>> 10)
  let first := rotateRight far 7 ^^^ rotateRight far 18 ^^^ (far >>> 3)
  second + before.getD 6 0 + first + before.getD 15 0

/-- Further words in front of those before them, the last one first. -/
def extend : Nat → List UInt32 → List UInt32
  | 0, before => before
  | count + 1, before => extend count (nextWord before :: before)

/-- One round with the sum of its constant and its word. -/
def round (state : State) (addend : UInt32) : State :=
  let high := rotateRight state.e 6 ^^^ rotateRight state.e 11 ^^^ rotateRight state.e 25
  let choice := (state.e &&& state.f) ^^^ ((~~~state.e) &&& state.g)
  let first := state.h + high + choice + addend
  let low := rotateRight state.a 2 ^^^ rotateRight state.a 13 ^^^ rotateRight state.a 22
  let majority := (state.a &&& state.b) ^^^ (state.a &&& state.c) ^^^ (state.b &&& state.c)
  { a := first + low + majority, b := state.a, c := state.b, d := state.c
    e := state.d + first, f := state.e, g := state.f, h := state.g }

/-- The sums of two states, word by word. -/
def State.add (first second : State) : State where
  a := first.a + second.a
  b := first.b + second.b
  c := first.c + second.c
  d := first.d + second.d
  e := first.e + second.e
  f := first.f + second.f
  g := first.g + second.g
  h := first.h + second.h

/-- The state after a block. -/
def compress (state : State) (block : List UInt8) : State :=
  let schedule := (extend 48 (words block).reverse).reverse
  state.add ((List.zipWith (· + ·) roundConstants schedule).foldl round state)

/-- What fills bytes of a length up to whole blocks: a bit, zeros and the length in bits. -/
def padding (length : Nat) : List UInt8 :=
  0x80 :: List.replicate ((119 - length % 64) % 64) 0 ++ Bytes.bigEndian 8 (8 * length)

/-- The blocks of some bytes; the fuel bounds their number. -/
def blocks : Nat → List UInt8 → List (List UInt8)
  | 0, _ => []
  | fuel + 1, bytes =>
      match bytes with
      | [] => []
      | _ => bytes.take 64 :: blocks fuel (bytes.drop 64)

/-- The bytes of a state. -/
def State.toBytes (state : State) : List UInt8 :=
  [state.a, state.b, state.c, state.d, state.e, state.f, state.g, state.h].flatMap fun word =>
    Bytes.bigEndian 4 word.toNat

/-- The hash of some bytes. -/
def hash (bytes : List UInt8) : List UInt8 :=
  let padded := bytes ++ padding bytes.length
  ((blocks (padded.length / 64) padded).foldl compress initial).toBytes

end Sha256
end Delegation
