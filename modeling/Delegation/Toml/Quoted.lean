import Delegation.Json.Token

/-!
# Quoted texts in TOML

Texts are written in double quotes with escapes or in single quotes without them, on one
line, or over several lines between three quotes. Line breaks inside count as one character.
-/

namespace Delegation
namespace Toml

/-- A control character other than the tab, which stands nowhere in a document. -/
def isControl (c : Char) : Bool :=
  (decide (c.toNat < 0x20) && c != '\t') || c.toNat == 0x7F

/-- The character with a code, unless it is half of a surrogate pair or out of range. -/
def charOfCode? (code : Nat) : Option Char :=
  if code < 0xD800 ∨ (0xDFFF < code ∧ code < 0x110000) then some (Char.ofNat code) else none

/-- The character that a number of hexadecimal digits name, and what follows them. -/
def codeEscape? (count : Nat) (text : List Char) : Option (Char × List Char) := do
  let digits ← (text.take count).mapM Json.Token.hexValue?
  if digits.length ≠ count then none
  else
    let c ← charOfCode? (digits.foldl (fun value digit => value * 16 + digit) 0)
    some (c, text.drop count)

/-- The character that an escape names, after its backslash, and what follows it. -/
def escape? : List Char → Option (Char × List Char)
  | 'b' :: text => some ('\x08', text)
  | 't' :: text => some ('\t', text)
  | 'n' :: text => some ('\n', text)
  | 'f' :: text => some ('\x0c', text)
  | 'r' :: text => some ('\r', text)
  | '"' :: text => some ('"', text)
  | '\\' :: text => some ('\\', text)
  | 'u' :: text => codeEscape? 4 text
  | 'U' :: text => codeEscape? 8 text
  | _ => none

/-- The line break in front of a text is left out. -/
def skipBreak : List Char → List Char
  | '\n' :: text => text
  | '\r' :: '\n' :: text => text
  | text => text

/-- What follows the line break that a backslash hides, with the blanks and further line
breaks after it; none if something else stands on the line. -/
def hiddenBreak? (text : List Char) : Option (List Char) :=
  let isBlank (c : Char) : Bool := c == ' ' || c == '\t'
  let isSpace (c : Char) : Bool := isBlank c || c == '\n' || c == '\r'
  match text.dropWhile isBlank with
  | '\n' :: rest => some (rest.dropWhile isSpace)
  | '\r' :: '\n' :: rest => some (rest.dropWhile isSpace)
  | _ => none

/-- The rest of a text in double quotes on one line, given what was read in reverse; the
fuel bounds its length. -/
def basicBody? : Nat → List Char → List Char → Option (String × List Char)
  | 0, _, _ => none
  | _, _, [] => none
  | _, before, '"' :: text => some (String.ofList before.reverse, text)
  | fuel + 1, before, '\\' :: text => do
      let (c, rest) ← escape? text
      basicBody? fuel (c :: before) rest
  | fuel + 1, before, c :: text =>
      if isControl c then none else basicBody? fuel (c :: before) text

/-- The rest of a text in single quotes on one line. -/
def literalBody? : List Char → List Char → Option (String × List Char)
  | _, [] => none
  | before, '\'' :: text => some (String.ofList before.reverse, text)
  | before, c :: text => if isControl c then none else literalBody? (c :: before) text

/-- Three quotes end a text over several lines; up to two more belong to the text. -/
def closing? (quote : Char) (text : List Char) : Option (List Char × List Char) :=
  let run := (text.takeWhile (· == quote)).length
  if run < 3 then none
  else
    let extra := min (run - 3) 2
    some (List.replicate extra quote, text.drop (extra + 3))

/-- The rest of a text over several lines, with escapes or without them; the fuel bounds its
length. -/
def multiLineBody? (quote : Char) (escapes : Bool) :
    Nat → List Char → List Char → Option (String × List Char)
  | 0, _, _ => none
  | _, _, [] => none
  | fuel + 1, before, c :: text =>
      match closing? quote (c :: text) with
      | some (extra, rest) => some (String.ofList (before.reverse ++ extra), rest)
      | none =>
          if c = '\\' ∧ escapes = true then
            match hiddenBreak? text with
            | some rest => multiLineBody? quote escapes fuel before rest
            | none => do
                let (meant, rest) ← escape? text
                multiLineBody? quote escapes fuel (meant :: before) rest
          else if c = '\r' then
            match text with
            | '\n' :: rest => multiLineBody? quote escapes fuel ('\n' :: before) rest
            | _ => none
          else if isControl c && c != '\n' then none
          else multiLineBody? quote escapes fuel (c :: before) text

/-- A text in quotes on one line, and what follows it. -/
def lineText? : List Char → Option (String × List Char)
  | '"' :: text => basicBody? (text.length + 1) [] text
  | '\'' :: text => literalBody? [] text
  | _ => none

/-- A text in quotes, and what follows it. -/
def quoted? : List Char → Option (String × List Char)
  | '"' :: '"' :: '"' :: text =>
      multiLineBody? '"' true (text.length + 1) [] (skipBreak text)
  | '\'' :: '\'' :: '\'' :: text =>
      multiLineBody? '\'' false (text.length + 1) [] (skipBreak text)
  | text => lineText? text

end Toml
end Delegation
