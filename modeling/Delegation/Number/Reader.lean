import Delegation.Number.Double
import Delegation.Text.AsciiCase
import Delegation.Text.Cut

/-!
# Reading numbers

Whole numbers with an optional sign, and decimal numbers with an optional fraction and
exponent. Names of the infinities and of what is no number are read in any case.
-/

namespace Delegation
namespace Number

/-- The value of decimal digits. -/
def digitsValue (row : List Char) : Nat :=
  row.foldl (fun value c => value * 10 + (c.toNat - '0'.toNat)) 0

/-- The value of at least one digit and nothing else. -/
def natural? (text : List Char) : Option Nat :=
  if text.isEmpty || !text.all Char.isDigit then none else some (digitsValue text)

/-- The sign in front of a text, negative or not, and what follows it. -/
def sign : List Char → Bool × List Char
  | '-' :: text => (true, text)
  | '+' :: text => (false, text)
  | text => (false, text)

/-- A whole number with an optional sign. -/
def integer? (text : List Char) : Option Int :=
  let (negative, digits) := sign text
  (natural? digits).map fun value => if negative then -(value : Int) else value

/-- A whole number between two bounds. -/
def integerWithin? (low high : Int) (text : List Char) : Option Int :=
  (integer? text).filter fun value => decide (low ≤ value) && decide (value ≤ high)

/-- The exponent after the letter, if one is written, and the text before it. -/
def exponent? (text : List Char) : Option (List Char × Int) :=
  match Text.cutFirst 'e' (Text.asciiLower text) with
  | none => some (text, 0)
  | some (front, row) => (integer? row).map fun value => (front, value)

/-- A decimal number without its sign. -/
def decimal? (negative : Bool) (text : List Char) : Option Double := do
  let (front, exponent) ← exponent? text
  let (whole, part) := (Text.cutFirst '.' front).getD (front, [])
  if (whole ++ part).isEmpty || !(whole ++ part).all Char.isDigit then none
  else some (.ofDecimal negative (digitsValue (whole ++ part)) (exponent - part.length))

/-- A number, or one of the names of what is not finite. -/
def double? (text : List Char) : Option Double :=
  let (negative, unsigned) := sign text
  match String.ofList (Text.asciiLower unsigned) with
  | "inf" => some (.infinite negative)
  | "infinity" => some (.infinite negative)
  | "nan" => some .notANumber
  | _ => decimal? negative unsigned

end Number
end Delegation
