import Delegation.Json.Reader
import Delegation.Settings.Value
import Delegation.Toml.Reader

/-!
# Settings from documents

A document of settings is written in JSON or in TOML, which the extension of its name tells.
A JSON number with a fraction or an exponent is rounded twice: its digits, as far as they fit
64 bits, and then their product or quotient with a power of ten.
-/

namespace Delegation
namespace Settings

namespace JsonNumber

/-- The largest number of 64 bits. -/
def wordLimit : Nat := 0xFFFFFFFFFFFFFFFF

/-- Add decimal digits to a number while it fits 64 bits, and count those that are left. -/
def addDigits (value : Nat) : List Char → Nat × Nat
  | [] => (value, 0)
  | c :: row =>
      let next := value * 10 + (c.toNat - '0'.toNat)
      if wordLimit < next then (value, row.length + 1) else addDigits next row

/-- A power of ten. -/
def powerOfTen (exponent : Nat) : Double := .ofDecimal false 1 exponent

/-- The largest exponent of a power of ten that is finite. -/
def largestPower : Nat := 308

/-- The rounded product of two positive numbers. -/
def product (first second : Double) : Double :=
  .ofFraction false
    (first.fraction.1 * second.fraction.1, first.fraction.2 * second.fraction.2)

/-- The rounded quotient of two positive numbers. -/
def quotient (first second : Double) : Double :=
  .ofFraction false
    (first.fraction.1 * second.fraction.2, first.fraction.2 * second.fraction.1)

/-- A positive number times a power of ten, unless it is too large; the fuel bounds how often
the largest power is divided by. -/
def scaled? : Nat → Double → Int → Option Double
  | 0, value, _ => some value
  | fuel + 1, value, exponent =>
      if exponent.natAbs ≤ largestPower then
        if 0 ≤ exponent then
          match product value (powerOfTen exponent.toNat) with
          | .infinite _ => none
          | value => some value
        else some (quotient value (powerOfTen exponent.natAbs))
      else if !value.isNonzero then some value
      else if 0 ≤ exponent then none
      else scaled? fuel (quotient value (powerOfTen largestPower)) (exponent + largestPower)

/-- The number with the opposite sign. -/
def negated : Double → Double
  | .finite negative significand exponent => .finite (!negative) significand exponent
  | .infinite negative => .infinite (!negative)
  | .notANumber => .notANumber

/-- The exponent after its letter, if one is written, and the text before it. -/
def exponentPart (text : List Char) : List Char × Int :=
  match Text.cutFirst 'e' (Text.asciiLower text) with
  | none => (text, 0)
  | some (front, row) => (front, (Number.integer? row).getD 0)

/-- The number that a JSON number is, unless it is too large. -/
def ofLexeme? (lexeme : String) : Option Double :=
  let (negative, unsigned) := Number.sign lexeme.toList
  let (front, exponent) := exponentPart unsigned
  let (whole, part) := (Text.cutFirst '.' front).getD (front, [])
  let (value, dropped) := addDigits 0 whole
  let (value, ignored) := addDigits value part
  let exponent := exponent + dropped - (part.length - ignored)
  (scaled? 4 (.ofInt value) exponent).map fun value =>
    if negative then negated value else value

end JsonNumber

/-- How deep a JSON document of settings may nest. -/
def deepestJson : Nat := 127

mutual

/-- The value of a JSON value that nests no deeper than a depth. -/
def ofJson? : Nat → Json → Option Value
  | _, .null => some .null
  | _, .bool value => some (.bool value)
  | _, .integer value =>
      if -0x8000000000000000 ≤ value ∧ value < 0x8000000000000000 then some (.integer value)
      else (JsonNumber.ofLexeme? (toString value)).map .real
  | _, .decimal lexeme => (JsonNumber.ofLexeme? lexeme).map .real
  | _, .string text => text.map .text
  | 0, .array _ => none
  | 0, .object _ => none
  | depth + 1, .array items => (itemsOfJson? depth items).map .list
  | depth + 1, .object members => (membersOfJson? depth [] members).map .table

/-- The values of JSON values. -/
def itemsOfJson? (depth : Nat) : List Json → Option (List Value)
  | [] => some []
  | item :: items => do
      let first ← ofJson? depth item
      some (first :: (← itemsOfJson? depth items))

/-- The entries of the members of a JSON object, the last one for a key counting. -/
def membersOfJson? (depth : Nat) (entries : List (String × Value)) :
    List (Option String × Json) → Option (List (String × Value))
  | [] => some entries
  | (key, value) :: members => do
      membersOfJson? depth (Value.setEntry (← key) (← ofJson? depth value) entries) members

end

/-- The formats of documents. -/
inductive DocumentFormat
  | json
  | toml
  deriving DecidableEq

namespace DocumentFormat

/-- The extension of a file's name. -/
def extension? (fileName : String) : Option String :=
  match Text.cutLast '.' fileName.toList with
  | some (_ :: _, extension) => some (String.ofList extension)
  | _ => none

/-- The format that the name of a file tells. -/
def ofFileName? (fileName : String) : Option DocumentFormat :=
  match extension? fileName with
  | some "json" => some .json
  | some "toml" => some .toml
  | _ => none

/-- The settings of a document. -/
def read? (content : String) : DocumentFormat → Option (List (String × Value))
  | json => do
      match ← ofJson? deepestJson (← Json.read? content) with
      | .table entries => some entries
      | _ => none
  | toml => Toml.read? content

end DocumentFormat
end Settings
end Delegation
