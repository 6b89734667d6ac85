import Delegation.Json.Token
import Delegation.Settings.Value
import Delegation.Toml.Moment

/-!
# Numbers and words in TOML

Whole numbers in four bases and numbers with a fraction or an exponent. Underscores may stand
between digits.
-/

namespace Delegation
namespace Toml

/-- A character of a number or a word. -/
def isScalarChar (c : Char) : Bool :=
  c.isAlphanum || c == '_' || c == '+' || c == '-' || c == '.'

/-- A row of digits with single underscores between them, without the underscores. -/
def digitRow? (isDigit : Char → Bool) (text : List Char) : Option (List Char) :=
  let parts := Text.piecesAt '_' text
  if parts.all fun part => !part.isEmpty && part.all isDigit then some parts.flatten else none

/-- A row of decimal digits that starts with a zero only if it is one. -/
def decimalRow? (text : List Char) : Option (List Char) :=
  (digitRow? Char.isDigit text).filter fun row => row.head? != some '0' || row.length == 1

/-- A whole number of 64 bits. -/
def int64? (value : Int) : Option Settings.Value :=
  if -0x8000000000000000 ≤ value ∧ value < 0x8000000000000000 then some (.integer value) else none

/-- A whole number in a base of two, eight or sixteen. -/
def basedInteger? (base : Nat) (text : List Char) : Option Settings.Value := do
  let isDigit (c : Char) : Bool := (Json.Token.hexValue? c).any (· < base)
  let row ← digitRow? isDigit text
  int64? (row.foldl (fun value c => value * base + (Json.Token.hexValue? c).getD 0) 0)

/-- A decimal whole number. -/
def decimalInteger? (text : List Char) : Option Settings.Value := do
  let (negative, unsigned) := Number.sign text
  let value : Int := Number.digitsValue (← decimalRow? unsigned)
  int64? (if negative then -value else value)

/-- The exponent of a number, if its letter is there, and what stands before it. -/
def exponent? (text : List Char) : Option (List Char × Option (List Char)) :=
  match Text.cutFirst 'e' (Text.asciiLower text) with
  | none => some (text, none)
  | some (front, row) => do
      let (negative, unsigned) := Number.sign row
      let digits ← digitRow? Char.isDigit unsigned
      some (front, some (if negative then '-' :: digits else digits))

/-- A finite number with a fraction or an exponent. -/
def float? (text : List Char) : Option Settings.Value := do
  let (negative, unsigned) := Number.sign text
  match String.ofList unsigned with
  | "inf" => some (.real (.infinite negative))
  | "nan" => some (.real .notANumber)
  | _ =>
      let (front, exponent) ← exponent? unsigned
      let (whole, part) ← match Text.cutFirst '.' front with
        | some (whole, part) => (digitRow? Char.isDigit part).map fun part => (whole, '.' :: part)
        | none => if exponent.isNone then none else some (front, [])
      let digits ← decimalRow? whole
      let tail := match exponent with
        | some row => 'e' :: row
        | none => []
      let value ← Number.decimal? negative (digits ++ part ++ tail)
      match value with
      | .infinite _ => none
      | value => some (.real value)

/-- A number or a truth value. -/
def word? (text : List Char) : Option Settings.Value :=
  match text with
  | ['t', 'r', 'u', 'e'] => some (.bool true)
  | ['f', 'a', 'l', 's', 'e'] => some (.bool false)
  | '0' :: 'x' :: row => basedInteger? 16 row
  | '0' :: 'o' :: row => basedInteger? 8 row
  | '0' :: 'b' :: row => basedInteger? 2 row
  | _ => (decimalInteger? text).orElse fun _ => float? text

/-- A number, a word, a date or a time in front of a text, and what follows it. -/
def scalar? (text : List Char) : Option (Settings.Value × List Char) :=
  if startsMoment text then (moment? text).map fun read => (.text read.1, read.2)
  else
    (word? (text.takeWhile isScalarChar)).map fun value =>
      (value, text.dropWhile isScalarChar)

end Toml
end Delegation
