/-!
# Base64

Three bytes as four characters of an alphabet of 64. One alphabet is that of texts, where
an equals sign fills the last group; the other one is that of URLs, where nothing does. A
text is read only if it is exactly what its bytes are written as.
-/

namespace Delegation
namespace Base64

/-- An alphabet: its last two characters and whether the last group is filled. -/
structure Alphabet where
  /-- The character for 62. -/
  char62 : Char
  /-- The character for 63. -/
  char63 : Char
  /-- An equals sign fills the last group. -/
  padded : Bool
  deriving DecidableEq

/-- The alphabet of texts. -/
def standard : Alphabet := ⟨'+', '/', true⟩

/-- The alphabet of URLs. -/
def url : Alphabet := ⟨'-', '_', false⟩

namespace Alphabet

/-- The character for a number below 64. -/
def charOf (alphabet : Alphabet) (value : Nat) : Char :=
  if value < 26 then Char.ofNat ('A'.toNat + value)
  else if value < 52 then Char.ofNat ('a'.toNat + (value - 26))
  else if value < 62 then Char.ofNat ('0'.toNat + (value - 52))
  else if value = 62 then alphabet.char62
  else alphabet.char63

/-- The number that a character stands for. -/
def valueOf? (alphabet : Alphabet) (c : Char) : Option Nat :=
  if 'A' ≤ c ∧ c ≤ 'Z' then some (c.toNat - 'A'.toNat)
  else if 'a' ≤ c ∧ c ≤ 'z' then some (c.toNat - 'a'.toNat + 26)
  else if '0' ≤ c ∧ c ≤ '9' then some (c.toNat - '0'.toNat + 52)
  else if c = alphabet.char62 then some 62
  else if c = alphabet.char63 then some 63
  else none

/-- The equals signs that fill a group. -/
def filler (alphabet : Alphabet) (count : Nat) : List Char :=
  if alphabet.padded then List.replicate count '=' else []

/-- The written form of some bytes. -/
def encode (alphabet : Alphabet) : List UInt8 → List Char
  | [] => []
  | [a] =>
      let bits := a.toNat * 16
      [alphabet.charOf (bits / 64), alphabet.charOf (bits % 64)] ++ alphabet.filler 2
  | [a, b] =>
      let bits := (a.toNat * 256 + b.toNat) * 4
      [alphabet.charOf (bits / 4096), alphabet.charOf (bits / 64 % 64),
        alphabet.charOf (bits % 64)] ++ alphabet.filler 1
  | a :: b :: c :: bytes =>
      let bits := (a.toNat * 256 + b.toNat) * 256 + c.toNat
      alphabet.charOf (bits / 262144) :: alphabet.charOf (bits / 4096 % 64) ::
        alphabet.charOf (bits / 64 % 64) :: alphabet.charOf (bits % 64) :: alphabet.encode bytes

/-- The bytes of groups of numbers below 64; the bits that are left at the end are zero. -/
def bytesOf? : List Nat → Option (List UInt8)
  | [] => some []
  | [a, b] =>
      let bits := a * 64 + b
      if bits % 16 = 0 then some [UInt8.ofNat (bits / 16)] else none
  | [a, b, c] =>
      let bits := (a * 64 + b) * 64 + c
      if bits % 4 = 0 then some [UInt8.ofNat (bits / 1024), UInt8.ofNat (bits / 4)] else none
  | a :: b :: c :: d :: values => do
      let bits := ((a * 64 + b) * 64 + c) * 64 + d
      some (UInt8.ofNat (bits / 65536) :: UInt8.ofNat (bits / 256) :: UInt8.ofNat bits ::
        (← bytesOf? values))
  | _ => none

/-- A text without the equals signs that fill its last group, if it is filled as it must. -/
def unfilled? (alphabet : Alphabet) (text : List Char) : Option (List Char) :=
  if alphabet.padded then
    let body := (text.reverse.dropWhile (· == '=')).reverse
    if text.length % 4 = 0 ∧ text.length ≤ body.length + 2 then some body else none
  else some text

/-- The bytes that a text writes. -/
def decode? (alphabet : Alphabet) (text : List Char) : Option (List UInt8) := do
  bytesOf? (← (← alphabet.unfilled? text).mapM alphabet.valueOf?)

end Alphabet
end Base64
end Delegation
