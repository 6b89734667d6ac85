import Delegation.Text.AsciiCase
import Delegation.Text.Blank
import Delegation.Text.Cut
import Delegation.Text.Lowercase

/-!
# Distinguished names

A distinguished name is a comma-separated list of relative names. A backslash keeps
itself and protects the character after it, so a protected comma stays inside its
relative name. Names are compared in a normal form: lower case, one comma between
relative names, no blanks around separators.
-/

namespace Delegation
namespace Dn

/-- Put a text in front of the first piece. -/
def extendHead (front : List Char) : List (List Char) → List (List Char)
  | [] => [front]
  | piece :: pieces => (front ++ piece) :: pieces

@[simp] theorem extendHead_cons (front piece : List Char) (pieces : List (List Char)) :
    extendHead front (piece :: pieces) = (front ++ piece) :: pieces := rfl

/-- The pieces between the commas that no backslash protects. -/
def commaPieces : List Char → List (List Char)
  | [] => [[]]
  | ['\\'] => [['\\']]
  | '\\' :: c :: text => extendHead ['\\', c] (commaPieces text)
  | ',' :: text => [] :: commaPieces text
  | c :: text => extendHead [c] (commaPieces text)

/-- The relative names of a distinguished name: its trimmed pieces, blank ones dropped. -/
def rdns (dn : List Char) : List (List Char) :=
  ((commaPieces dn).map Text.trim).filter fun rdn => !rdn.isEmpty

/-- The key and the value of a relative name, cut at its first equals sign. -/
def keyAndValue (rdn : List Char) : Option (List Char × List Char) :=
  (Text.cutFirst '=' rdn).map fun parts => (Text.trim parts.1, Text.trim parts.2)

/-- The normal form of a relative name: trimmed on both sides of its first equals sign,
then lower-cased as one text. -/
def normalizeRdn (rdn : List Char) : List Char :=
  match keyAndValue rdn with
  | some (key, value) => Text.lower (key ++ '=' :: value)
  | none => Text.lower (Text.trim rdn)

/-- The normal form of a distinguished name, as characters. -/
def normalizeChars (dn : List Char) : List Char :=
  Text.joinWith [','] ((rdns dn).map normalizeRdn)

/-- The normal form in which distinguished names are compared. -/
def normalize (dn : String) : String :=
  String.ofList (normalizeChars dn.toList)

@[simp] theorem toList_normalize (dn : String) :
    (normalize dn).toList = normalizeChars dn.toList := by
  simp [normalize]

/-- The value of the first relative name with the given key, in any ASCII case. -/
def valueOf? (key : String) (names : List (List Char)) : Option (List Char) :=
  names.findSome? fun rdn =>
    match keyAndValue rdn with
    | some (found, value) =>
        if Text.eqIgnoringAsciiCase found key.toList then some value else none
    | none => none

/-- The part after the last space, or the whole text. -/
def lastWord (text : List Char) : List Char :=
  match Text.cutLast ' ' text with
  | some (_, last) => last
  | none => text

/-- A short name for people: the last word of the common name, or of the whole name when
it has no common name. -/
def shortName (dn : String) : String :=
  String.ofList (lastWord (Text.trim ((valueOf? "cn" (rdns dn.toList)).getD dn.toList)))

/-- Some organizational unit of the name is listed, up to blanks around it and ASCII case. -/
def hasListedUnit (dn : String) (units : List String) : Bool :=
  (rdns dn.toList).any fun rdn =>
    match keyAndValue rdn with
    | some (key, value) =>
        Text.eqIgnoringAsciiCase key "ou".toList &&
          units.any fun unit => Text.eqIgnoringAsciiCase (Text.trim unit.toList) value
    | none => false

end Dn
end Delegation
