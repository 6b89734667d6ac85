/-!
# Characters as bytes

The bytes of a text in UTF-8, and the reading of bytes as text, whole or character by
character.
-/

namespace Delegation
namespace Text

/-- The bytes of a text. -/
def utf8 (text : List Char) : List UInt8 :=
  text.flatMap String.utf8EncodeChar

/-- The bytes of a string. -/
def utf8String (text : String) : List UInt8 :=
  utf8 text.toList

/-- The text that bytes stand for, if they are well-formed. -/
def ofUtf8? (bytes : List UInt8) : Option String :=
  String.fromUTF8? ⟨bytes.toArray⟩

/-- The character that a number of bytes stand for. -/
def charOf? (bytes : List UInt8) : Option Char :=
  match (ofUtf8? bytes).map String.toList with
  | some [c] => some c
  | _ => none

/-- The character in front of some bytes and the number of bytes after its first one. -/
def firstChar? (bytes : List UInt8) : Option (Char × Nat) :=
  [0, 1, 2, 3].findSome? fun further =>
    (charOf? (bytes.take (further + 1))).map fun c => (c, further)

/-- The characters of some bytes; a byte that starts none is no character. -/
def chars : List UInt8 → List (Option Char)
  | [] => []
  | byte :: bytes =>
      match firstChar? (byte :: bytes) with
      | some (c, further) => some c :: chars (bytes.drop further)
      | none => none :: chars bytes
termination_by bytes => bytes.length

end Text
end Delegation
