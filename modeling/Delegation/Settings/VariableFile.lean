import Delegation.Text.Cut
import Delegation.Text.Blank

/-!
# Files of variables

A file of variables has one definition on a line: a name, an equals sign and a value. Values
may be quoted, hold escapes and name other variables; a quoted value may go on over several
lines. Reading stops at the first line that is no definition, and keeps those before it.
-/

namespace Delegation
namespace Settings
namespace VariableFile

/-! ## Lines -/

/-- Where a reader is inside a definition. -/
inductive Place
  /-- Outside of quotes. -/
  | plain
  /-- After a blank outside of quotes. -/
  | blank
  /-- After a backslash outside of quotes. -/
  | escape
  /-- In single quotes. -/
  | single
  /-- After a backslash in single quotes. -/
  | singleEscape
  /-- In double quotes. -/
  | double
  /-- After a backslash in double quotes. -/
  | doubleEscape
  deriving DecidableEq

/-- Where a reader is after a character outside of quotes. -/
def Place.open (c : Char) : Place :=
  match c with
  | '\\' => escape
  | '"' => double
  | '\'' => single
  | _ => plain

/-- Where a reader is after one more character; none at the mark of a comment. -/
def Place.next? : Place → Char → Option Place
  | blank, '#' => none
  | blank, c => some (.open c)
  | escape, _ => some plain
  | plain, c =>
      if Text.isBlank c && c != '\n' && c != '\r' then some blank else some (.open c)
  | double, '\\' => some doubleEscape
  | double, '"' => some plain
  | double, _ => some double
  | doubleEscape, _ => some double
  | single, '\\' => some singleEscape
  | single, '\'' => some plain
  | single, _ => some single
  | singleEscape, _ => some single

/-- The text up to a comment, and where the reader is at its end. -/
def scan (place : Place) : List Char → List Char × Option Place
  | [] => ([], some place)
  | c :: text =>
      match place.next? c with
      | none => ([], none)
      | some next => ((c :: (scan next text).1), (scan next text).2)

/-- The lines of a text, each with its line break. -/
def rawLines : List Char → List (List Char)
  | [] => []
  | '\n' :: text => ['\n'] :: rawLines text
  | c :: text =>
      match rawLines text, text with
      | line :: lines, _ :: _ => (c :: line) :: lines
      | _, _ => [[c]]

/-- A line without its line break. -/
def withoutBreak (line : List Char) : List Char :=
  match line.reverse with
  | '\n' :: '\r' :: rest => rest.reverse
  | '\n' :: rest => rest.reverse
  | _ => line

/-- The lines of a file, those that a quote or an escape leaves open joined with the ones
after them; none stands for a line that is open at the end of the file. -/
def joinLines (held : List Char) (place : Place) : List (List Char) → List (Option (List Char))
  | [] => if place = .plain then [] else [none]
  | line :: lines =>
      let whole := held ++ line
      if (Text.trimLeft whole).head? = some '#' then some [] :: joinLines [] .plain lines
      else
        match scan place line with
        | (part, none) => some (held ++ part) :: joinLines [] .plain lines
        | (_, some .plain) => some (withoutBreak whole) :: joinLines [] .plain lines
        | (_, some further) => joinLines whole further lines

/-! ## Values -/

/-- What is written for a variable that a value names. -/
abbrev Lookup := String → String

/-- How a variable is being named. -/
inductive Naming
  /-- After the dollar sign. -/
  | plain
  /-- In braces after it. -/
  | braced

/-- What is read of a value. -/
structure Reading where
  /-- The value so far, in reverse. -/
  output : List Char := []
  /-- Inside double quotes. -/
  quoted : Bool := false
  /-- The name of a variable that is being read, in reverse. -/
  naming : Option (Naming × List Char) := none

/-- Put the value of a variable at the end. -/
def Reading.substitute (lookup : Lookup) (name : List Char) (reading : Reading) : Reading :=
  { reading with
    output := (lookup (String.ofList name.reverse)).toList.reverse ++ reading.output
    naming := none }

/-- Put a character at the end. -/
def Reading.push (c : Char) (reading : Reading) : Reading :=
  { reading with output := c :: reading.output }

/-- The character that a backslash and a character stand for. -/
def escaped? (c : Char) : Option Char :=
  if ['\\', '\'', '"', '$', ' '].contains c then some c
  else if c = 'n' then some '\n'
  else none

/-- A letter or digit, of any script. -/
def isWordChar (c : Char) : Bool :=
  c.isAlphanum || decide (0x80 ≤ c.toNat)

/-- After a value only blanks and a comment may stand. -/
def isTail : List Char → Bool
  | [] => true
  | '#' :: _ => true
  | c :: text => (c == ' ' || c == '\t') && isTail text

/-- The value at the end of a text. -/
def finish? (lookup : Lookup) (reading : Reading) : Option String :=
  match reading.naming, reading.quoted with
  | some (.braced, _), _ => none
  | _, true => none
  | some (.plain, name), false =>
      some (String.ofList (reading.substitute lookup name).output.reverse)
  | none, false => some (String.ofList reading.output.reverse)

/-- Read a value. -/
def readValue? (lookup : Lookup) (reading : Reading) : List Char → Option String
  | [] => finish? lookup reading
  | c :: text =>
      match reading.naming with
      | some (.plain, name) =>
          if isWordChar c then
            readValue? lookup { reading with naming := some (.plain, c :: name) } text
          else if c = '{' ∧ name.isEmpty then
            readValue? lookup { reading with naming := some (.braced, []) } text
          else
            let known := reading.substitute lookup name
            if c = '$' then
              readValue? lookup { known with naming := some (.plain, []) } text
            else
              readValue? lookup (known.push c) text
      | some (.braced, name) =>
          if c = '}' then readValue? lookup (reading.substitute lookup name) text
          else readValue? lookup { reading with naming := some (.braced, c :: name) } text
      | none =>
          if c = '$' then readValue? lookup { reading with naming := some (.plain, []) } text
          else if c = '\\' then
            match text with
            | [] => finish? lookup reading
            | d :: rest =>
                (escaped? d).bind fun meant => readValue? lookup (reading.push meant) rest
          else if c = '"' then
            readValue? lookup { reading with quoted := !reading.quoted } text
          else if reading.quoted then readValue? lookup (reading.push c) text
          else if c = '\'' then
            match _cut : Text.cutFirst '\'' text with
            | none => none
            | some (inner, rest) =>
                readValue? lookup { reading with output := inner.reverse ++ reading.output } rest
          else if c = ' ' ∨ c = '\t' then
            if isTail text then finish? lookup reading else none
          else readValue? lookup (reading.push c) text
termination_by text => text.length
decreasing_by
  all_goals simp only [List.length_cons, Nat.lt_succ_self]
  · omega
  · have whole := congrArg List.length (Text.cutFirst_eq_some _cut).1
    simp only [List.length_append, List.length_cons] at whole
    omega

/-! ## Definitions -/

/-- The name in front of a text and what follows it without blanks. -/
def takeName? (text : List Char) : Option (String × List Char) :=
  let isFirst (c : Char) : Bool := c.isAlpha || c == '_'
  let isNext (c : Char) : Bool := c.isAlphanum || c == '_' || c == '.'
  if (text.head?.map isFirst).getD false then
    some (String.ofList (text.takeWhile isNext), Text.trimLeft (text.dropWhile isNext))
  else
    none

/-- What follows an equals sign. -/
def afterEquals? : List Char → Option (List Char)
  | '=' :: text => some (Text.trimLeft text)
  | _ => none

/-- The name that a line defines and what is written for it; the word `export` may stand in
front of the name. -/
def nameAndText? (line : List Char) : Option (String × List Char) := do
  let (first, rest) ← takeName? line
  match first, afterEquals? rest with
  | _, some text => some (first, text)
  | "export", none => do
      let (name, rest) ← takeName? rest
      some (name, ← afterEquals? rest)
  | _, none => none

/-- The definition of a line; none inside for a line without one. -/
def define? (lookup : Lookup) (line : List Char) : Option (Option (String × String)) :=
  let line := Text.trimLeft line
  if line.isEmpty || line.head? == some '#' then some none
  else do
    let (name, text) ← nameAndText? line
    if text.isEmpty || text.head? == some '#' then some (some (name, ""))
    else some (some (name, ← readValue? lookup {} text))

/-- The last value of a name. -/
def valueOf? (name : String) (definitions : List (String × String)) : Option String :=
  (definitions.reverse.find? (·.1 == name)).map (·.2)

/-- Read definitions one after the other, up to the first line that is none. Variables that
are set already are not set again, but every definition is known to those after it. -/
def load (environment defined : List (String × String)) :
    List (Option (List Char)) → List (String × String)
  | [] => environment
  | line :: lines =>
      let lookup (name : String) : String :=
        ((valueOf? name environment).orElse fun _ => valueOf? name defined).getD ""
      match line.bind (define? lookup) with
      | none => environment
      | some none => load environment defined lines
      | some (some (name, value)) =>
          let environment :=
            if (valueOf? name environment).isSome then environment
            else environment ++ [(name, value)]
          load environment (defined ++ [(name, value)]) lines

/-- The variables of an environment together with those of a file. -/
def extend (environment : List (String × String)) (content : String) :
    List (String × String) :=
  let text := content.toList
  let text := if text.head? = some '\uFEFF' then text.tail else text
  load environment [] (joinLines [] .plain (rawLines text))

end VariableFile
end Settings
end Delegation
