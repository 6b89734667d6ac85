import Delegation.Bytes.Der
import Delegation.Crypto.Sha256
import Delegation.Number.PowMod

/-!
# RSA signatures

Signatures of SHA-256 hashes with a fixed padding. A signature is a number whose power with
the public exponent, modulo the public modulus, is the padded hash.
-/

namespace Delegation
namespace Rsa

/-- The bytes that name the hash in front of it. -/
def hashLabel : List UInt8 := [
  0x30, 0x31, 0x30, 0x0d, 0x06, 0x09, 0x60, 0x86, 0x48, 0x01, 0x65, 0x03, 0x04, 0x02, 0x01, 0x05,
  0x00, 0x04, 0x20]

/-- The hash of a message behind its label and what fills it up to a size. -/
def paddedHash (size : Nat) (message : List UInt8) : List UInt8 :=
  let labelled := hashLabel ++ Sha256.hash message
  [0x00, 0x01] ++ List.replicate (size - labelled.length - 3) 0xFF ++ [0x00] ++ labelled

/-- What anyone may know of a key. -/
structure PublicKey where
  /-- The number modulo which all is counted. -/
  modulus : Nat
  /-- The exponent that undoes a signature. -/
  exponent : Nat
  deriving DecidableEq

/-- The positive whole numbers that a sequence in the given bytes consists of. -/
def naturals? (bytes : List UInt8) : Option (List Nat) := do
  match ← Der.elements? bytes with
  | [sequence] =>
      if sequence.tag = ⟨.universal, true, Der.sequenceTag⟩ then
        (← Der.elements? sequence.contents).mapM fun element =>
          if element.tag = ⟨.universal, false, Der.integerTag⟩ then
            Der.natural? element.contents
          else none
      else none
  | _ => none

namespace PublicKey

/-- Read a modulus and an exponent. -/
def ofDer? (bytes : List UInt8) : Option PublicKey := do
  match ← naturals? bytes with
  | [modulus, exponent] => some ⟨modulus, exponent⟩
  | _ => none

/-- The number of bytes of a signature. -/
def size (key : PublicKey) : Nat := Bytes.byteCount key.modulus

/-- Both numbers are odd and within bounds; the modulus has at least 256 bytes. -/
def isUsable (key : PublicKey) (largestBits smallestExponent : Nat) : Bool :=
  decide (256 ≤ key.size) && decide (key.modulus < Nat.pow 2 largestBits) &&
    decide (key.modulus % 2 = 1) && decide (smallestExponent ≤ key.exponent) &&
    decide (key.exponent < 0x200000000) && decide (key.exponent % 2 = 1)

/-- A signature belongs to a message. -/
def verify (key : PublicKey) (message signature : List UInt8) : Bool :=
  let number := Bytes.toNat signature
  key.isUsable 8192 3 && decide (signature.length = key.size) && decide (number < key.modulus) &&
    decide (Bytes.bigEndian key.size (Number.powMod number key.exponent key.modulus) =
      paddedHash key.size message)

end PublicKey

/-- What only the signer of messages knows of a key, beside what anyone may know. -/
structure PrivateKey where
  /-- The public part. -/
  publicKey : PublicKey
  /-- The factors of the modulus. -/
  factors : Nat × Nat
  /-- The signing exponents modulo one less than each factor. -/
  exponents : Nat × Nat
  /-- The inverse of the second factor modulo the first. -/
  inverse : Nat
  deriving DecidableEq

namespace PrivateKey

/-- Read a version and the numbers of a key. -/
def ofDer? (bytes : List UInt8) : Option PrivateKey := do
  match ← naturals? bytes with
  | [0, modulus, exponent, _, first, second, firstExponent, secondExponent, inverse] =>
      some {
        publicKey := ⟨modulus, exponent⟩
        factors := (first, second)
        exponents := (firstExponent, secondExponent)
        inverse := inverse }
  | _ => none

/-- A number that has half of the bits of the modulus, rounded up, and a multiple of 512. -/
def isFactorSize (key : PrivateKey) (factor : Nat) : Bool :=
  let bits := factor.log2 + 1
  decide (bits = (key.publicKey.modulus.log2 + 2) / 2) && decide (bits % 512 = 0)

/-- The numbers of a key fit each other. -/
def isUsable (key : PrivateKey) : Bool :=
  key.publicKey.isUsable 4096 65537 &&
    decide (key.factors.1 * key.factors.2 = key.publicKey.modulus) &&
    key.isFactorSize key.factors.1 && key.isFactorSize key.factors.2 &&
    decide (key.inverse * key.factors.2 % key.factors.1 = 1)

/-- The number whose power is a given one, from its remainders at the factors. -/
def root (key : PrivateKey) (number : Nat) : Nat :=
  let first := Number.powMod number key.exponents.1 key.factors.1
  let second := Number.powMod number key.exponents.2 key.factors.2
  let difference := first + (key.factors.1 - second % key.factors.1)
  second + key.inverse * difference % key.factors.1 * key.factors.2

/-- The signature of a message; none unless it belongs to the message. -/
def sign? (key : PrivateKey) (message : List UInt8) : Option (List UInt8) :=
  let size := key.publicKey.size
  let signature := Bytes.bigEndian size (key.root (Bytes.toNat (paddedHash size message)))
  if key.isUsable && key.publicKey.verify message signature then some signature else none

end PrivateKey
end Rsa
end Delegation
