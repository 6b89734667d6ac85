/-!
# Numbers as bytes

Natural numbers written and read with the highest byte first.
-/

namespace Delegation
namespace Bytes

/-- The number that bytes write, the highest first. -/
def toNat (bytes : List UInt8) : Nat :=
  bytes.foldl (fun value byte => value * 256 + byte.toNat) 0

/-- The lowest bytes of a number, the highest of them first. -/
def bigEndian : Nat → Nat → List UInt8
  | 0, _ => []
  | count + 1, value => bigEndian count (value / 256) ++ [UInt8.ofNat value]

/-- The number of bytes of a number. -/
def byteCount (value : Nat) : Nat :=
  if value = 0 then 0 else Nat.log2 value / 8 + 1

end Bytes
end Delegation
