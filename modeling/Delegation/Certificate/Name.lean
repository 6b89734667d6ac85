import Delegation.Bytes.Der
import Delegation.Certificate.ObjectId
import Delegation.Text.Utf8

/-!
# Names in certificates

A name is a list of parts, the most general one first, and each part has one or more
attributes. As text the most specific part comes first, commas stand between the parts and
plus signs between the attributes of a part. Commas in values are escaped.
-/

namespace Delegation
namespace Certificate

/-- An attribute of a part of a name. -/
structure Attribute where
  /-- What the attribute says. -/
  type : ObjectId
  /-- The number of the tag of its value. -/
  tag : Nat
  /-- The bytes of its value. -/
  value : List UInt8
  deriving DecidableEq

/-- The tag numbers of values that are read as text. -/
def textTags : List Nat := [12, 18, 19, 22]

/-- An attribute with its key and its value as text. -/
structure TextAttribute where
  /-- What stands before the equals sign. -/
  key : String
  /-- The value. -/
  value : String
  deriving DecidableEq

/-- An attribute whose value is text. -/
def Attribute.text? (item : Attribute) : Option TextAttribute :=
  if textTags.contains item.tag then
    (Text.ofUtf8? item.value).map fun value => ⟨item.type.key, value⟩
  else none

/-- A value with its commas escaped. -/
def escapeCommas (value : List Char) : List Char :=
  value.flatMap fun c => if c = ',' then ['\\', ','] else [c]

/-- The text of an attribute. -/
def TextAttribute.render (item : TextAttribute) : List Char :=
  item.key.toList ++ '=' :: escapeCommas item.value.toList

/-- The text of a part of a name. -/
def renderPart (attributes : List TextAttribute) : List Char :=
  ['+'].intercalate (attributes.map TextAttribute.render)

/-- The text of a name. -/
def renderName (parts : List (List TextAttribute)) : String :=
  String.ofList ([','].intercalate (parts.reverse.map renderPart))

/-- A name: its parts, the most general one first. -/
abbrev Name := List (List Attribute)

/-- The parts of a name as text, if all values are text. -/
def Name.texts? (name : Name) : Option (List (List TextAttribute)) :=
  name.mapM fun part => part.mapM Attribute.text?

/-- The text of a name, if all values are text. -/
def Name.render? (name : Name) : Option String :=
  name.texts?.map renderName

/-- Read an attribute: a sequence of an identifier and a value. -/
def attribute? (element : Der.Element) : Option Attribute :=
  if element.tag.number = Der.sequenceTag then do
    let (type, rest) ← Der.contents? Der.objectIdTag element.contents
    let (value, _) ← Der.read? rest
    some ⟨⟨type⟩, value.tag.number, value.contents⟩
  else none

/-- The values that a function gives for the first items of a list. -/
def leading {α β : Type} (read : α → Option β) : List α → List β
  | [] => []
  | item :: items =>
      match read item with
      | some value => value :: leading read items
      | none => []

/-- Read a part of a name: a set of one or more attributes. -/
def part? (element : Der.Element) : Option (List Attribute) :=
  if element.tag.number = Der.setTag then
    match leading attribute? (Der.split element.contents).1 with
    | [] => none
    | attributes => some attributes
  else none

/-- The name in a sequence of parts, up to the first one that cannot be read. -/
def nameOf (contents : List UInt8) : Name :=
  leading part? (Der.split contents).1

end Certificate
end Delegation
