import Delegation.Dn.Basic

/-!
# Lists of names in a header

A proxy chain header holds distinguished names in angle brackets, one after the other
with nothing between them: `<cn=a,o=x><cn=b,o=y>`. A value without any bracket is one
name, and an empty value holds none.
-/

namespace Delegation
namespace Dn

/-- Why a header value is not a list of names. -/
inductive HeaderFault
  | malformed (text : String)
  deriving DecidableEq

/-- The wording of a fault. -/
def HeaderFault.message : HeaderFault → String
  | .malformed text => "Malformed proxied DN list: " ++ text

/-- The text between a first `<` and a last `>`. -/
def bracketBody? (text : List Char) : Option (List Char) :=
  match Text.afterWord ['<'] text with
  | none => none
  | some rest =>
      match Text.cutLast '>' rest with
      | some (body, []) => some body
      | _ => none

/-- An entry of a bracketed list is not blank and holds no bracket. -/
def isEntry (entry : List Char) : Bool :=
  !(Text.isBlankText entry || entry.contains '<' || entry.contains '>')

/-- The entries of a trimmed header value, as written. -/
def headerEntries? (text : List Char) : Option (List (List Char)) :=
  if text.isEmpty then
    some []
  else if !text.contains '<' then
    some [text]
  else
    match bracketBody? text with
    | none => none
    | some body =>
        let entries := Text.piecesAtPair '>' '<' body
        if entries.all isEntry then some entries else none

/-- Keep the first occurrence of every name. -/
def firstOccurrences (names : List String) : List String :=
  names.foldl (fun kept name => if kept.contains name then kept else kept ++ [name]) []

/-- The normalized names of a header value. -/
def splitHeader (value : String) (allowDuplicates : Bool) : Except HeaderFault (List String) :=
  let text := Text.trim value.toList
  match headerEntries? text with
  | none => .error (.malformed (String.ofList text))
  | some entries =>
      let names := entries.map fun entry => String.ofList (normalizeChars entry)
      .ok (if allowDuplicates then names else firstOccurrences names)

/-- The header value that holds the given names: each in brackets, nothing between them. -/
def buildHeader (names : List String) : String :=
  String.join (names.map fun name => "<" ++ name ++ ">")

end Dn
end Delegation
