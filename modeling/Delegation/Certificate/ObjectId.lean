/-!
# Object identifiers

The identifiers of the attributes of names in certificates, as bytes, with the keys that
stand for them in texts. Identifiers without a key are written as numbers with dots.
-/

namespace Delegation

/-- An object identifier, as its bytes in the distinguished encoding. -/
structure ObjectId where
  /-- The first two numbers in one byte, then seven bits a byte. -/
  bytes : List UInt8
  deriving DecidableEq

namespace ObjectId

/-- The numbers in seven bits a byte, after the bits of a number that is not complete. -/
def numbers (unfinished : Option Nat) : List UInt8 → List Nat
  | [] => unfinished.toList
  | byte :: bytes =>
      let number := unfinished.getD 0 * 128 + byte.toNat % 128
      if byte < 0x80 then number :: numbers none bytes else numbers (some number) bytes

/-- The numbers of an identifier. -/
def arcs (id : ObjectId) : List Nat :=
  match id.bytes with
  | [] => []
  | [0] => [0]
  | first :: bytes => first.toNat / 40 :: first.toNat % 40 :: numbers none bytes

/-- The numbers of an identifier with dots between them. -/
def dotted (id : ObjectId) : String :=
  ".".intercalate (id.arcs.map toString)

/-- The keys of identifiers that have one. -/
def keys : List (List Nat × String) := [
  ([2, 5, 4, 3], "CN"),
  ([2, 5, 4, 4], "surname"),
  ([2, 5, 4, 5], "serialNumber"),
  ([2, 5, 4, 6], "C"),
  ([2, 5, 4, 7], "L"),
  ([2, 5, 4, 8], "ST"),
  ([2, 5, 4, 9], "streetAddress"),
  ([2, 5, 4, 10], "O"),
  ([2, 5, 4, 11], "OU"),
  ([2, 5, 4, 12], "title"),
  ([2, 5, 4, 13], "description"),
  ([2, 5, 4, 14], "searchGuide"),
  ([2, 5, 4, 15], "businessCategory"),
  ([2, 5, 4, 16], "postalAddress"),
  ([2, 5, 4, 17], "postalCode"),
  ([2, 5, 4, 41], "name"),
  ([2, 5, 4, 42], "givenName"),
  ([2, 5, 4, 43], "initials"),
  ([2, 5, 4, 44], "generationQualifier"),
  ([2, 5, 4, 45], "uniqueIdentifier"),
  ([2, 5, 4, 46], "dnQualifier"),
  ([0, 9, 2342, 19200300, 100, 1, 1], "uid"),
  ([0, 9, 2342, 19200300, 100, 1, 25], "DC"),
  ([1, 2, 840, 113549, 1, 9, 1], "Email")]

/-- The key of an identifier, or its numbers. -/
def key (id : ObjectId) : String :=
  match keys.find? fun entry => entry.1 == id.arcs with
  | some entry => entry.2
  | none => id.dotted

end ObjectId
end Delegation
