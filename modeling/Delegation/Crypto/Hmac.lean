import Delegation.Crypto.Sha256

/-!
# Keyed hashes

The hash of some bytes under a secret key, for those who share the key.
-/

namespace Delegation
namespace Hmac

/-- A key as one block; a longer one is hashed first. -/
def keyBlock (key : List UInt8) : List UInt8 :=
  let short := if 64 < key.length then Sha256.hash key else key
  short ++ List.replicate (64 - short.length) 0

/-- The keyed hash of some bytes. -/
def sign (key message : List UInt8) : List UInt8 :=
  let block := keyBlock key
  let inner := Sha256.hash (block.map (· ^^^ 0x36) ++ message)
  Sha256.hash (block.map (· ^^^ 0x5c) ++ inner)

end Hmac
end Delegation
