/-!
# JSON values

The values of a JSON document. The order of the members of an object and repeated keys are
kept, and whole numbers are apart from numbers with a fraction or an exponent. A string
whose escapes name no character has no text.
-/

namespace Delegation

/-- A JSON value. -/
inductive Json
  | null
  | bool (value : Bool)
  /-- A number without fraction and exponent, other than minus zero. -/
  | integer (value : Int)
  /-- Any other number, as written. -/
  | decimal (lexeme : String)
  /-- A string; without a text when an escape in it is half of a surrogate pair. -/
  | string (text : Option String)
  | array (items : List Json)
  /-- Members as written; a key may repeat. -/
  | object (members : List (Option String × Json))
  deriving Inhabited

namespace Json

/-- A string value. -/
def ofString (text : String) : Json := .string (some text)

/-- A whole number. -/
def ofNat (value : Nat) : Json := .integer value

/-- An array of strings. -/
def ofStrings (texts : List String) : Json := .array (texts.map ofString)

/-- An object with the given members. -/
def ofMembers (members : List (String × Json)) : Json :=
  .object (members.map fun member => (some member.1, member.2))

/-- A value, or null in its absence. -/
def ofOption (value : Option Json) : Json := value.getD .null

/-- The text of a string value. -/
def asString? : Json → Option String
  | .string text => text
  | _ => none

/-- The value of a whole number. -/
def asInt? : Json → Option Int
  | .integer value => some value
  | _ => none

/-- A truth value. -/
def asBool? : Json → Option Bool
  | .bool value => some value
  | _ => none

/-- The items of an array. -/
def asArray? : Json → Option (List Json)
  | .array items => some items
  | _ => none

/-- The members of an object whose keys are all texts. -/
def asObject? : Json → Option (List (String × Json))
  | .object members => members.mapM fun member => member.1.map fun key => (key, member.2)
  | _ => none

/-- The last member with a key, in an object. -/
def member? (key : String) : Json → Option Json
  | .object members => (members.reverse.find? (·.1 == some key)).map (·.2)
  | _ => none

end Json
end Delegation
