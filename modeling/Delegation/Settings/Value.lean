import Delegation.Number.Reader
import Delegation.Number.Shortest
import Delegation.Names.NameMap
import Delegation.Text.Lowercase

/-!
# Values of settings

Settings come as values whose kind depends on where they were written: a variable of the
environment holds text, a document has numbers and lists. Reading a value as a certain kind
converts between texts, numbers and truth values.
-/

namespace Delegation
namespace Settings

/-- A value of a setting. -/
inductive Value
  | null
  | bool (value : Bool)
  | integer (value : Int)
  | real (value : Double)
  | text (value : String)
  | list (items : List Value)
  /-- Nested settings by name. -/
  | table (entries : List (String × Value))
  deriving Inhabited

namespace Value

/-- The entries of a table; other values have none. -/
def entries : Value → List (String × Value)
  | table entries => entries
  | _ => []

/-- The items of a list; other values have none. -/
def items : Value → List Value
  | list items => items
  | _ => []

/-- The value of a nested setting. -/
def item? (key : String) (value : Value) : Option Value :=
  (value.entries.find? (·.1 == key)).map (·.2)

/-- Put an entry in the place of the one with its key, or at the end. -/
def setEntry (key : String) (value : Value) : List (String × Value) → List (String × Value)
  | [] => [(key, value)]
  | entry :: entries =>
      if entry.1 = key then (key, value) :: entries else entry :: setEntry key value entries

/-- The table with a nested setting; any other value gives way to a table. -/
def withEntry (outer : Value) (key : String) (value : Value) : Value :=
  table (setEntry key value outer.entries)

/-- The list with an item at a place, filled up with nulls. -/
def setItem (value : Value) : Nat → List Value → List Value
  | 0, items => value :: items.tail
  | place + 1, [] => null :: setItem value place []
  | place + 1, item :: items => item :: setItem value place items

mutual

/-- Set a nested setting. A table is merged into the table that is there; any other value
takes the place of what is there. Names are written in small letters. -/
def put (outer : Value) (key : String) : Value → Value
  | table entries =>
      let name := Text.lowerString key
      outer.withEntry name (putAll ((outer.item? name).getD (table [])) entries)
  | value => outer.withEntry (Text.lowerString key) value

/-- Set nested settings in order. -/
def putAll (outer : Value) : List (String × Value) → Value
  | [] => outer
  | (key, value) :: entries => putAll (put outer key value) entries

end

/-- A text, or a number or truth value as it is written. -/
def asText? : Value → Option String
  | text value => some value
  | bool value => some (toString value)
  | integer value => some (toString value)
  | real value => some value.render
  | _ => none

/-- Words for truth. -/
def trueWords : List String := ["true", "on", "yes"]

/-- Words for falsehood. -/
def falseWords : List String := ["false", "off", "no"]

/-- A truth value, a number other than zero, or a word for truth. -/
def asBool? : Value → Option Bool
  | bool value => some value
  | integer value => some (value != 0)
  | real value => some value.isNonzero
  | text value =>
      let word := Text.lowerString value
      if trueWords.contains word || word == "1" then some true
      else if falseWords.contains word || word == "0" then some false
      else none
  | _ => none

/-- The whole number that a word for truth or digits stand for, between two bounds. -/
def wordOrNumber? (low high : Int) (value : String) : Option Int :=
  let word := Text.lowerString value
  if trueWords.contains word then some 1
  else if falseWords.contains word then some 0
  else Number.integerWithin? low high value.toList

/-- A whole number between two bounds; fractions are rounded. -/
def asIntWithin? (low high : Int) : Value → Option Int
  | integer value => if low ≤ value ∧ value ≤ high then some value else none
  | real value => some (value.toIntWithin low high)
  | bool value => some (if value then 1 else 0)
  | text value => wordOrNumber? low high value
  | _ => none

/-- A signed whole number of 64 bits. -/
def asInt64? : Value → Option Int :=
  asIntWithin? (-0x8000000000000000) 0x7FFFFFFFFFFFFFFF

/-- The low bits of an unsigned whole number of 64 bits. A text does not have a minus sign,
not even before a zero. -/
def asWord? (bits : Nat) (value : Value) : Option Nat :=
  match value with
  | text (value) =>
      if value.startsWith "-" then none
      else (wordOrNumber? 0 0xFFFFFFFFFFFFFFFF value).map fun word => word.toNat % Nat.pow 2 bits
  | value => (asIntWithin? 0 0xFFFFFFFFFFFFFFFF value).map fun word => word.toNat % Nat.pow 2 bits

/-- A value that may be null. -/
def nullable? {α : Type} (read : Value → Option α) : Value → Option (Option α)
  | null => some none
  | value => (read value).map some

/-- A list of values of one kind. -/
def listOf? {α : Type} (read : Value → Option α) : Value → Option (List α)
  | list items => items.mapM read
  | _ => none

/-- A list of texts. -/
def asTexts? : Value → Option (List String) := listOf? asText?

/-- A table of values of one kind. -/
def mapOf? {α : Type} (read : Value → Option α) : Value → Option (NameMap α)
  | table entries =>
      (entries.mapM fun entry => (read entry.2).map fun value => (entry.1, value)).map
        NameMap.ofList
  | _ => none

/-- The values of named settings, in a table by name or in a list by place. -/
def fields? (names : List String) : Value → Option (List (Option Value))
  | table entries => some (names.map fun name => (table entries).item? name)
  | list items =>
      let given := items.take names.length
      some (given.map some ++ List.replicate (names.length - given.length) none)
  | _ => none

/-- A setting with a default for its absence. -/
def defaulted? {α : Type} (default : α) (read : Value → Option α) : Option Value → Option α
  | none => some default
  | some value => read value

end Value
end Settings
end Delegation
