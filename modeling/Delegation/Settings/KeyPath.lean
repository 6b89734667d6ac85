import Delegation.Settings.Value
import Delegation.Text.Cut

/-!
# Paths of settings

The name of a setting may be a path to a nested one: names with full stops between them, and
places of list items in square brackets. A text that is no path is a name as it stands.
-/

namespace Delegation
namespace Settings

/-- A step into nested settings. -/
inductive PathStep
  /-- The setting with a name. -/
  | name (key : String)
  /-- The item at a place, counted from the end when negative. -/
  | item (place : Int)
  deriving DecidableEq

namespace PathStep

/-- A character of a name in a path. -/
def isNameChar (c : Char) : Bool :=
  c.isAlphanum || c == '_' || c == '-' || c == ' '

/-- The name in front of a path and what follows it. -/
def takeName? (text : List Char) : Option (PathStep × List Char) :=
  let row := text.takeWhile isNameChar
  if row.isEmpty then none
  else some (name (String.ofList row), text.dropWhile isNameChar)

/-- The place in front of a closing bracket and what follows it. -/
def takePlace? (text : List Char) : Option (PathStep × List Char) :=
  match Text.cutFirst ']' text with
  | some ('-' :: row, rest) => (Number.natural? row).map fun place => (item (-(place : Int)), rest)
  | some (row, rest) => (Number.natural? row).map fun place => (item place, rest)
  | none => none

/-- The further steps of a path; the fuel bounds their number. -/
def furtherSteps? : Nat → List Char → Option (List PathStep)
  | _, [] => some []
  | fuel + 1, '.' :: text => do
      let (step, rest) ← takeName? text
      some (step :: (← furtherSteps? fuel rest))
  | fuel + 1, '[' :: text => do
      let (step, rest) ← takePlace? text
      some (step :: (← furtherSteps? fuel rest))
  | _, _ => none

/-- The steps after the first name of a path. -/
def path? (text : String) : Option (String × List PathStep) := do
  let first := text.toList.takeWhile isNameChar
  let steps ← furtherSteps? text.length (text.toList.dropWhile isNameChar)
  if first.isEmpty then none else some (String.ofList first, steps)

/-- The place of an item in a list with a length; places before its start count as the
first one. -/
def position (length : Nat) (place : Int) : Nat :=
  if 0 ≤ place then place.toNat else length - place.natAbs

end PathStep

namespace Value

/-- Change what a step leads to, given what is there. -/
def change (step : PathStep) (edit : Value → Value) (outer : Value) : Value :=
  match step with
  | .name key =>
      let key := Text.lowerString key
      outer.withEntry key (edit ((outer.item? key).getD null))
  | .item place =>
      let items := outer.items
      let position := PathStep.position items.length place
      list (setItem (edit (items[position]?.getD null)) position items)

/-- Set what a path leads to. -/
def putAt (value : Value) : List PathStep → PathStep → Value → Value
  | [], .name key, outer => outer.put key value
  | [], step, outer => outer.change step fun _ => value
  | next :: steps, step, outer => outer.change step (putAt value steps next)

/-- Set the setting that a text names. -/
def putNamed (outer : Value) (name : String) (value : Value) : Value :=
  match PathStep.path? name with
  | some (first, steps) => putAt value steps (.name first) outer
  | none => outer.put name value

/-- Set settings in order, each by the text that names it. -/
def putAllNamed (outer : Value) (entries : List (String × Value)) : Value :=
  entries.foldl (fun outer entry => outer.putNamed entry.1 entry.2) outer

end Value
end Settings
end Delegation
