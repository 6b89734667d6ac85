import Delegation.Text.Utf8

/-!
# Percent encoding

In each part of a URL some characters stand for themselves and all others are written as
the hexadecimal codes of their bytes, each after a percent sign.
-/

namespace Delegation
namespace Url

/-- The upper-case hexadecimal digit of a number below sixteen. -/
def hexDigit (value : Nat) : Char :=
  if value < 10 then Char.ofNat (0x30 + value) else Char.ofNat (0x37 + value)

/-- The value of a hexadecimal digit. -/
def hexValue? (c : Char) : Option Nat :=
  if '0' ≤ c ∧ c ≤ '9' then some (c.toNat - '0'.toNat)
  else if 'a' ≤ c ∧ c ≤ 'f' then some (c.toNat - 'a'.toNat + 10)
  else if 'A' ≤ c ∧ c ≤ 'F' then some (c.toNat - 'A'.toNat + 10)
  else none

/-- A byte after a percent sign. -/
def encodeByte (byte : UInt8) : List Char :=
  ['%', hexDigit (byte.toNat / 16), hexDigit (byte.toNat % 16)]

/-- The characters that no part of a URL holds: controls and whatever is not ASCII. -/
def isControl (c : Char) : Bool :=
  decide (c.toNat < 0x20) || decide (0x7F ≤ c.toNat)

/-- The characters that a path without structure does not hold. -/
def plainPathSet (c : Char) : Bool := isControl c

/-- The characters that a fragment does not hold. -/
def fragmentSet (c : Char) : Bool :=
  isControl c || [' ', '"', '<', '>', '`'].contains c

/-- The characters that a query does not hold. -/
def querySet (c : Char) : Bool :=
  isControl c || [' ', '"', '#', '<', '>'].contains c

/-- The characters that a query does not hold after a special scheme. -/
def specialQuerySet (c : Char) : Bool :=
  querySet c || c == '\''

/-- The characters that a path segment does not hold. -/
def pathSet (c : Char) : Bool :=
  fragmentSet c || ['#', '?', '{', '}'].contains c

/-- The characters that user information does not hold. -/
def userInfoSet (c : Char) : Bool :=
  pathSet c || ['/', ':', ';', '=', '@', '[', '\\', ']', '^', '|'].contains c

/-- Write a character, encoded if it is in the set. -/
def encodeChar (encoded : Char → Bool) (c : Char) : List Char :=
  if encoded c then (String.utf8EncodeChar c).flatMap encodeByte else [c]

/-- Write a text, with the characters of the set encoded. -/
def encode (encoded : Char → Bool) (text : List Char) : List Char :=
  text.flatMap (encodeChar encoded)

/-- A text in which nothing has to be encoded stays as it is. -/
theorem encode_eq_self {encoded : Char → Bool} {text : List Char}
    (clean : ∀ c ∈ text, encoded c = false) : encode encoded text = text := by
  induction text with
  | nil => rfl
  | cons c text ih =>
      have rest := ih fun d found => clean d (List.mem_cons_of_mem _ found)
      have head := clean c List.mem_cons_self
      simp only [encode] at rest
      simp [encode, encodeChar, head, rest]

/-- The bytes of a text in which percent codes stand for bytes. A percent sign without two
digits stands for itself. -/
def decode : List Char → List UInt8
  | [] => []
  | '%' :: a :: b :: rest =>
      match hexValue? a, hexValue? b with
      | some high, some low => UInt8.ofNat (high * 16 + low) :: decode rest
      | _, _ => String.utf8EncodeChar '%' ++ decode (a :: b :: rest)
  | c :: rest => String.utf8EncodeChar c ++ decode rest

end Url
end Delegation
