import Delegation.Settings.Value

/-!
# Settings from the environment

Variables whose names start with the mark of a group of settings are settings of the group.
Two underscores stand for a step into nested settings. The text of a variable is read as a
truth value or a number if it is one, and as a list where the setting is one.
-/

namespace Delegation
namespace Settings
namespace Environment

/-- Replace every pair of underscores by a full stop, from the left. -/
def nestedName : List Char → List Char
  | '_' :: '_' :: text => '.' :: nestedName text
  | c :: text => c :: nestedName text
  | [] => []

/-- The name of the setting that a variable holds, if it starts with the mark. -/
def settingName? (mark variableName : String) : Option String :=
  let name := Text.lowerString variableName
  (Text.afterWord mark.toList name.toList).map fun rest => String.ofList (nestedName rest)

/-- The value of a variable. -/
def valueOf (isList : Bool) (content : String) : Value :=
  match Text.lowerString content with
  | "true" => .bool true
  | "false" => .bool false
  | _ =>
      match Number.integerWithin? (-0x8000000000000000) 0x7FFFFFFFFFFFFFFF content.toList with
      | some value => .integer value
      | none =>
          match Number.double? content.toList with
          | some value => .real value
          | none =>
              if isList then
                .list ((Text.piecesAt ',' content.toList).map fun piece =>
                  .text (String.ofList piece))
              else
                .text content

/-- The settings of a group that variables hold. -/
def settings (mark : String) (listNames : List String) (definitions : List (String × String)) :
    List (String × Value) :=
  definitions.filterMap fun entry =>
    (settingName? mark entry.1).map fun name =>
      (name, valueOf (listNames.contains name) entry.2)

end Environment
end Settings
end Delegation
