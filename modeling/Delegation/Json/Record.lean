import Delegation.Json.Basic
import Delegation.Names.NameMap
import Delegation.Names.NameSet

/-!
# Records in JSON

A record with named fields is written as an object, or as an array of its fields in their
declared order. Members that are no field of the record are ignored; a field may be written
only once. An array may leave out fields at its end and holds no more than the fields.
-/

namespace Delegation
namespace Json

/-- The values of the declared fields of a record, absent ones as `none`. -/
def fields? (names : List String) : Json → Option (List (Option Json))
  | .array items =>
      if items.length ≤ names.length then
        some (items.map some ++ List.replicate (names.length - items.length) none)
      else
        none
  | .object members =>
      if members.any (·.1.isNone) then none
      else
        names.mapM fun name =>
          match members.filter (·.1 == some name) with
          | [] => some none
          | [member] => some (some member.2)
          | _ => none
  | _ => none

/-- A field that must be there. -/
def required? {α : Type} (read : Json → Option α) (field : Option Json) : Option α :=
  field.bind read

/-- A field with a default for its absence. -/
def defaulted? {α : Type} (default : α) (read : Json → Option α) :
    Option Json → Option α
  | none => some default
  | some value => read value

/-- A value that may be null. -/
def nullable? {α : Type} (read : Json → Option α) : Json → Option (Option α)
  | .null => some none
  | value => (read value).map some

/-- An array of values of one kind. -/
def listOf? {α : Type} (read : Json → Option α) : Json → Option (List α)
  | .array items => items.mapM read
  | _ => none

/-- An array of texts. -/
def strings? : Json → Option (List String) :=
  listOf? asString?

/-- An array of texts, as a set. -/
def nameSet? (json : Json) : Option NameSet :=
  (strings? json).map NameSet.ofList

/-- An object with values of one kind, the last member for a key counting. -/
def nameMap? {α : Type} (read : Json → Option α) (json : Json) : Option (NameMap α) := do
  let members ← asObject? json
  let entries ← members.mapM fun member => (read member.2).map fun value => (member.1, value)
  some (NameMap.ofList entries)

/-- A whole number between two bounds, both included. -/
def intBetween? (low high : Int) (json : Json) : Option Int :=
  (asInt? json).filter fun value => decide (low ≤ value) && decide (value ≤ high)

/-- A signed whole number of 64 bits. -/
def int64? : Json → Option Int :=
  intBetween? (-0x8000000000000000) 0x7FFFFFFFFFFFFFFF

/-- An unsigned whole number of the given number of bits. -/
def word? (bits : Nat) (json : Json) : Option Nat :=
  (intBetween? 0 (Nat.pow 2 bits - 1) json).map Int.toNat

/-- The name of a choice without content: a text, or an object whose only member has the
name as its key and null as its value. -/
def choice? : Json → Option String
  | .string text => text
  | .object [(key, .null)] => key
  | _ => none

/-- The members of a set as an array. -/
def ofNameSet (names : NameSet) : Json :=
  ofStrings names.toList

/-- The entries of a map as an object. -/
def ofNameMap {α : Type} (write : α → Json) (map : NameMap α) : Json :=
  ofMembers (map.toList.map fun entry => (entry.1, write entry.2))

end Json
end Delegation
