/-!
# Hexadecimal bytes

Bytes as pairs of hexadecimal digits.
-/

namespace Delegation
namespace Bytes

/-- The value of a hexadecimal digit. -/
def hexDigit? (c : Char) : Option Nat :=
  if '0' ≤ c ∧ c ≤ '9' then some (c.toNat - '0'.toNat)
  else if 'a' ≤ c ∧ c ≤ 'f' then some (c.toNat - 'a'.toNat + 10)
  else if 'A' ≤ c ∧ c ≤ 'F' then some (c.toNat - 'A'.toNat + 10)
  else none

/-- The bytes of pairs of digits, in front of others in reverse. -/
def hexPairs? (before : List UInt8) : List Char → Option (List UInt8)
  | [] => some before.reverse
  | high :: low :: text => do
      hexPairs? (UInt8.ofNat ((← hexDigit? high) * 16 + (← hexDigit? low)) :: before) text
  | _ => none

/-- The bytes that a text of hexadecimal digits writes. -/
def ofHex? (text : String) : Option (List UInt8) :=
  hexPairs? [] text.toList

end Bytes
end Delegation
