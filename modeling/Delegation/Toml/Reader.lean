import Delegation.Toml.Quoted
import Delegation.Toml.Scalar
import Delegation.Toml.Tree

/-!
# Reading TOML

A document is a sequence of lines: definitions of names, headers of tables and of items of
lists, comments. A definition belongs to the table of the last header before it.
-/

namespace Delegation
namespace Toml

/-- Blanks within a line. -/
def isLineBlank (c : Char) : Bool := c == ' ' || c == '\t'

/-- What follows the blanks within a line. -/
def skipBlanks (text : List Char) : List Char := text.dropWhile isLineBlank

/-- A character of a name without quotes. -/
def isBareChar (c : Char) : Bool := c.isAlphanum || c == '_' || c == '-'

/-- A single name, and what follows it. -/
def simpleKey? (text : List Char) : Option (String × List Char) :=
  match text.head? with
  | some '"' => lineText? text
  | some '\'' => lineText? text
  | _ =>
      let row := text.takeWhile isBareChar
      if row.isEmpty then none else some (String.ofList row, text.dropWhile isBareChar)

/-- Names with full stops between them, and what follows them without blanks; the fuel
bounds their number. -/
def key? : Nat → List Char → Option (List String × List Char)
  | 0, _ => none
  | fuel + 1, text => do
      let (name, rest) ← simpleKey? (skipBlanks text)
      match skipBlanks rest with
      | '.' :: rest => do
          let (names, rest) ← key? fuel rest
          some (name :: names, rest)
      | rest => some ([name], rest)

/-- What follows a comment, up to the line break. -/
def skipComment? : List Char → Option (List Char)
  | '#' :: text =>
      let rest := text.dropWhile fun c => !isControl c
      match rest with
      | [] => some []
      | '\n' :: _ => some rest
      | '\r' :: '\n' :: _ => some rest
      | _ => none
  | text => some text

/-- What follows blanks, line breaks and comments; the fuel bounds their number. -/
def skipLines? : Nat → List Char → Option (List Char)
  | 0, _ => none
  | fuel + 1, text =>
      match skipBlanks text with
      | '\n' :: rest => skipLines? fuel rest
      | '\r' :: '\n' :: rest => skipLines? fuel rest
      | '#' :: rest => (skipComment? ('#' :: rest)).bind (skipLines? fuel)
      | rest => some rest

/-- How deep lists and tables may be nested in a value. -/
def deepest : Nat := 79

/-- The names before the last one, and the last one. -/
def splitLast? (names : List String) : Option (List String × String) :=
  names.getLast?.map fun last => (names.dropLast, last)

mutual

/-- A value in front of a text, and what follows it; the fuel bounds the steps and `depth`
the nesting. -/
def value? : Nat → Nat → List Char → Option (Settings.Value × List Char)
  | 0, _, _ => none
  | _, 0, '[' :: _ => none
  | _, 0, '{' :: _ => none
  | fuel + 1, depth + 1, '[' :: text => (items? fuel depth [] text).map fun read =>
      (.list read.1, read.2)
  | fuel + 1, depth + 1, '{' :: text =>
      match skipBlanks text with
      | '}' :: rest => some (.table [], rest)
      | rest => (members? fuel depth [] rest).map fun read =>
          (.table (entriesToValues read.1), read.2)
  | _, _, text =>
      match text.head? with
      | some '"' => (quoted? text).map fun read => (.text read.1, read.2)
      | some '\'' => (quoted? text).map fun read => (.text read.1, read.2)
      | _ => scalar? text

/-- The rest of a list, given its reversed items, and what follows it. -/
def items? : Nat → Nat → List Settings.Value → List Char →
    Option (List Settings.Value × List Char)
  | 0, _, _, _ => none
  | fuel + 1, depth, before, text => do
      let text ← skipLines? (text.length + 1) text
      match text with
      | ']' :: rest => some (before.reverse, rest)
      | _ => do
          let (value, rest) ← value? fuel depth text
          let rest ← skipLines? (rest.length + 1) rest
          match rest with
          | ',' :: rest => items? fuel depth (value :: before) rest
          | ']' :: rest => some ((value :: before).reverse, rest)
          | _ => none

/-- The rest of a table within a line, given its entries, and what follows it. -/
def members? : Nat → Nat → Entries → List Char → Option (Entries × List Char)
  | 0, _, _, _ => none
  | fuel + 1, depth, entries, text => do
      let (names, rest) ← key? (text.length + 1) text
      let (path, last) ← splitLast? names
      match rest with
      | '=' :: rest => do
          let (value, rest) ← value? fuel depth (skipBlanks rest)
          let entries ← entries.define? value last path
          match skipBlanks rest with
          | ',' :: rest => members? fuel depth entries rest
          | '}' :: rest => some (entries, rest)
          | _ => none
      | _ => none

end

/-- A document under construction: its entries and the header of the open table. -/
structure Draft where
  entries : Entries := []
  header : List String := []

/-- What stands on a line after the blanks in front, and what follows it. -/
def line? (draft : Draft) (text : List Char) : Option (Draft × List Char) :=
  match text with
  | '[' :: '[' :: rest => do
      let (names, rest) ← key? (rest.length + 1) rest
      let (path, last) ← splitLast? names
      match rest with
      | ']' :: ']' :: rest => do
          some (⟨← Entries.within? (Entries.openItem? last) path draft.entries, names⟩, rest)
      | _ => none
  | '[' :: rest => do
      let (names, rest) ← key? (rest.length + 1) rest
      let (path, last) ← splitLast? names
      match rest with
      | ']' :: rest => do
          some (⟨← Entries.within? (Entries.openTable? last) path draft.entries, names⟩, rest)
      | _ => none
  | _ => do
      let (names, rest) ← key? (text.length + 1) text
      let (path, last) ← splitLast? names
      match rest with
      | '=' :: rest => do
          let (value, rest) ← value? (rest.length + 1) deepest (skipBlanks rest)
          some ({ draft with
            entries := ← Entries.within? (Entries.define? value last path) draft.header
              draft.entries }, rest)
      | _ => none

/-- The end of a line, after blanks and a comment. -/
def lineEnd? (text : List Char) : Option (List Char) := do
  match ← skipComment? (skipBlanks text) with
  | [] => some []
  | '\n' :: rest => some rest
  | '\r' :: '\n' :: rest => some rest
  | _ => none

/-- The lines of a document; the fuel bounds their number. -/
def lines? : Nat → Draft → List Char → Option Draft
  | 0, _, _ => none
  | fuel + 1, draft, text => do
      match ← skipLines? (text.length + 1) text with
      | [] => some draft
      | text => do
          let (draft, rest) ← line? draft text
          lines? fuel draft (← lineEnd? rest)

/-- The entries of a document. -/
def read? (content : String) : Option (List (String × Settings.Value)) :=
  let text := content.toList
  let text := if text.head? = some '\uFEFF' then text.tail else text
  (lines? (text.length + 1) {} text).map fun draft => entriesToValues draft.entries

end Toml
end Delegation
