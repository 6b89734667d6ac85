import Delegation.Bytes.BigEndian

/-!
# Tagged elements of bytes

Bytes in the distinguished encoding: each element has a tag, a length and contents, and the
contents may be elements themselves. Lengths are always given, and short ones are written
in one byte.
-/

namespace Delegation
namespace Der

/-- The classes of tags. -/
inductive TagClass
  | universal
  | application
  | context
  | personal
  deriving DecidableEq

/-- The class that the two highest bits of a byte stand for. -/
def TagClass.ofByte (byte : UInt8) : TagClass :=
  if byte < 0x40 then universal
  else if byte < 0x80 then application
  else if byte < 0xC0 then context
  else personal

/-- What kind of element follows. -/
structure Tag where
  /-- The class of the tag. -/
  tagClass : TagClass
  /-- The contents are elements. -/
  constructed : Bool
  /-- The number within the class. -/
  number : Nat
  deriving DecidableEq

/-- An element. -/
structure Element where
  /-- What kind of element it is. -/
  tag : Tag
  /-- The bytes after tag and length. -/
  contents : List UInt8
  deriving DecidableEq

/-- The number of truth values. -/
def booleanTag : Nat := 1

/-- The number of whole numbers. -/
def integerTag : Nat := 2

/-- The number of rows of bits. -/
def bitStringTag : Nat := 3

/-- The number of rows of bytes. -/
def octetStringTag : Nat := 4

/-- The number of object identifiers. -/
def objectIdTag : Nat := 6

/-- The number of sequences. -/
def sequenceTag : Nat := 16

/-- The number of sets. -/
def setTag : Nat := 17

/-- A tag number in seven bits a byte, the last byte being the first one below 128. The
first argument bounds the number of bytes. -/
def tagNumber? : Nat → Nat → List UInt8 → Option (Nat × List UInt8)
  | 0, _, _ => none
  | _ + 1, _, [] => none
  | bound + 1, number, byte :: bytes =>
      let number := number * 128 + byte.toNat % 128
      if byte < 0x80 then some (number % 0x100000000, bytes) else tagNumber? bound number bytes

/-- A length, and the bytes after it. A length of 127 or more is written in a given number
of bytes. -/
def length? : List UInt8 → Option (Nat × List UInt8)
  | [] => none
  | byte :: bytes =>
      if byte < 0x80 then some (byte.toNat, bytes)
      else
        let count := byte.toNat - 0x80
        let length := Bytes.toNat (bytes.take count)
        if count = 0 ∨ count = 127 ∨ bytes.length < count ∨ length < 127 then none
        else some (length, bytes.drop count)

/-- The tag in front of some bytes, and the bytes after it. -/
def tag? : List UInt8 → Option (Tag × List UInt8)
  | [] => none
  | byte :: bytes =>
      let tag (number : Nat) : Tag := ⟨.ofByte byte, decide (byte.toNat / 32 % 2 = 1), number⟩
      if byte.toNat % 32 = 31 then (tagNumber? 5 0 bytes).map fun read => (tag read.1, read.2)
      else some (tag (byte.toNat % 32), bytes)

/-- The tag and the length in front of some bytes, and the bytes after them. -/
def header? (bytes : List UInt8) : Option (Tag × Nat × List UInt8) :=
  (tag? bytes).bind fun tag => (length? tag.2).map fun length => (tag.1, length)

/-- The element in front of some bytes, and the bytes after it. -/
def read? (bytes : List UInt8) : Option (Element × List UInt8) :=
  (header? bytes).bind fun (tag, length, rest) =>
    if rest.length < length then none else some (⟨tag, rest.take length⟩, rest.drop length)

theorem length_tagNumber? {bound number tag : Nat} {bytes rest : List UInt8}
    (read : tagNumber? bound number bytes = some (tag, rest)) :
    rest.length < bytes.length := by
  induction bound generalizing number bytes with
  | zero => simp [tagNumber?] at read
  | succ bound ih =>
      cases bytes with
      | nil => simp [tagNumber?] at read
      | cons byte bytes =>
          simp only [tagNumber?] at read
          split at read
          · simp only [Option.some.injEq, Prod.mk.injEq] at read
            simp [← read.2]
          · have := ih read
            simp only [List.length_cons]
            omega

theorem length_length? {length : Nat} {bytes rest : List UInt8}
    (read : length? bytes = some (length, rest)) : rest.length < bytes.length := by
  cases bytes with
  | nil => simp [length?] at read
  | cons byte bytes =>
      simp only [length?] at read
      split at read
      · simp only [Option.some.injEq, Prod.mk.injEq] at read
        simp [← read.2]
      · split at read
        · simp at read
        · simp only [Option.some.injEq, Prod.mk.injEq] at read
          rw [← read.2]
          simp only [List.length_drop, List.length_cons]
          omega

theorem length_tag? {tag : Tag} {bytes rest : List UInt8}
    (read : tag? bytes = some (tag, rest)) : rest.length < bytes.length := by
  cases bytes with
  | nil => simp [tag?] at read
  | cons byte bytes =>
      simp only [tag?] at read
      split at read
      · simp only [Option.map_eq_some_iff, Prod.mk.injEq] at read
        obtain ⟨⟨number, after⟩, numberRead, _, rfl⟩ := read
        exact Nat.lt_succ_of_lt (length_tagNumber? numberRead)
      · simp only [Option.some.injEq, Prod.mk.injEq] at read
        simp [← read.2]

theorem length_header? {tag : Tag} {length : Nat} {bytes rest : List UInt8}
    (read : header? bytes = some (tag, length, rest)) : rest.length < bytes.length := by
  simp only [header?, Option.bind_eq_some_iff, Option.map_eq_some_iff, Prod.mk.injEq] at read
  obtain ⟨⟨_, afterTag⟩, tagRead, ⟨_, _⟩, lengthRead, _, same⟩ := read
  rw [same] at lengthRead
  exact Nat.lt_trans (length_length? lengthRead) (length_tag? tagRead)

/-- The contents of an element and the bytes after it are together shorter than the bytes
that it is read from. -/
theorem length_read? {element : Element} {bytes rest : List UInt8}
    (read : read? bytes = some (element, rest)) :
    element.contents.length + rest.length < bytes.length := by
  simp only [read?, Option.bind_eq_some_iff] at read
  obtain ⟨⟨tag, length, afterHeader⟩, headerRead, read⟩ := read
  have shorter := length_header? headerRead
  split at read
  · simp at read
  · simp only [Option.some.injEq, Prod.mk.injEq] at read
    rw [← read.1, ← read.2]
    simp only [List.length_take, List.length_drop]
    omega

/-- The elements in front of some bytes, as many as can be read, and the bytes after them. -/
def split (bytes : List UInt8) : List Element × List UInt8 :=
  match _read : read? bytes with
  | none => ([], bytes)
  | some (element, rest) =>
      let others := split rest
      (element :: others.1, others.2)
termination_by bytes.length
decreasing_by
  have := length_read? _read
  omega

/-- The elements that bytes consist of. -/
def elements? (bytes : List UInt8) : Option (List Element) :=
  match split bytes with
  | (elements, []) => some elements
  | _ => none

/-- The elements that bytes consist of, those of sequences in the place of the sequences. -/
def flatten? (bytes : List UInt8) : Option (List Element) :=
  match _read : read? bytes with
  | none => if bytes.isEmpty then some [] else none
  | some (element, rest) => do
      let first ←
        if element.tag.tagClass = .universal ∧ element.tag.number = sequenceTag then
          flatten? element.contents
        else some [element]
      some (first ++ (← flatten? rest))
termination_by bytes.length
decreasing_by
  all_goals
    have := length_read? _read
    omega

/-- The contents of an element with a tag number in front of some bytes, and the bytes after
it. -/
def contents? (number : Nat) (bytes : List UInt8) : Option (List UInt8 × List UInt8) :=
  match read? bytes with
  | some (element, rest) =>
      if element.tag.number = number then some (element.contents, rest) else none
  | none => none

/-- Whole numbers have at least one byte, and none that could be left out. -/
def isInteger : List UInt8 → Bool
  | [] => false
  | [_] => true
  | 0x00 :: next :: _ => decide (0x80 ≤ next)
  | 0xFF :: next :: _ => decide (next < 0x80)
  | _ => true

/-- The value of the contents of a whole number that is not negative. -/
def natural? (contents : List UInt8) : Option Nat :=
  if isInteger contents ∧ contents.headD 0 < 0x80 then some (Bytes.toNat contents) else none

/-- The bytes of the contents of a bit string, whose first byte is the number of bits at the
end that do not count; these are zero. -/
def bits? : List UInt8 → Option (List UInt8)
  | [] => none
  | unused :: bytes =>
      if unused ≤ 7 ∧ (bytes.getLastD 0).toNat % Nat.pow 2 unused.toNat = 0 ∧
          (bytes ≠ [] ∨ unused = 0) then
        some bytes
      else none

end Der
end Delegation
