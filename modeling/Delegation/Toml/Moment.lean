import Delegation.Number.Reader
import Delegation.Time.Calendar
import Delegation.Time.Duration

/-!
# Dates and times in TOML

A date, a time of day, or both with an optional offset. The written form has two digits for
each part, nine at most for the fraction of a second, and a `T` between date and time.
-/

namespace Delegation
namespace Toml

/-- A number of exactly that many digits in front of a text, and what follows it. -/
def fixedDigits? (count : Nat) (text : List Char) : Option (Nat × List Char) :=
  let row := text.take count
  if row.length = count ∧ row.all Char.isDigit then
    some (Number.digitsValue row, text.drop count)
  else none

/-- A number of exactly that many digits up to a bound. -/
def boundedDigits? (count low high : Nat) (text : List Char) : Option (Nat × List Char) :=
  (fixedDigits? count text).filter fun read => decide (low ≤ read.1) && decide (read.1 ≤ high)

/-- A character in front of a text is left out. -/
def skip? (c : Char) : List Char → Option (List Char)
  | d :: text => if c = d then some text else none
  | [] => none

/-- A number with leading zeros. -/
def padded (width value : Nat) : String :=
  String.ofList (Duration.paddedDigits width value)

/-- The written form of a date in front of a text, and what follows it. -/
def date? (text : List Char) : Option (String × List Char) := do
  let (year, text) ← fixedDigits? 4 text
  let (month, text) ← boundedDigits? 2 1 12 (← skip? '-' text)
  let (day, text) ← boundedDigits? 2 1 (Calendar.daysIn year month) (← skip? '-' text)
  some (padded 4 year ++ "-" ++ padded 2 month ++ "-" ++ padded 2 day, text)

/-- The written form of a fraction of a second in front of a text, and what follows it. -/
def secondFraction? : List Char → Option (String × List Char)
  | '.' :: text =>
      let row := text.takeWhile Char.isDigit
      if row.isEmpty then none
      else
        let digits := ((row.take 9).reverse.dropWhile (· == '0')).reverse
        some (if digits.isEmpty then "" else String.ofList ('.' :: digits),
          text.dropWhile Char.isDigit)
  | text => some ("", text)

/-- The written form of a time of day in front of a text, and what follows it. -/
def time? (text : List Char) : Option (String × List Char) := do
  let (hour, text) ← boundedDigits? 2 0 23 text
  let (minute, text) ← boundedDigits? 2 0 59 (← skip? ':' text)
  let (second, text) ← boundedDigits? 2 0 60 (← skip? ':' text)
  let (fraction, text) ← secondFraction? text
  some (padded 2 hour ++ ":" ++ padded 2 minute ++ ":" ++ padded 2 second ++ fraction, text)

/-- The written form of an offset in front of a text, if there is one, and what follows it. -/
def offset? : List Char → Option (String × List Char)
  | 'Z' :: text => some ("Z", text)
  | 'z' :: text => some ("Z", text)
  | c :: text =>
      if c = '+' ∨ c = '-' then do
        let (hours, text) ← boundedDigits? 2 0 23 text
        let (minutes, text) ← boundedDigits? 2 0 59 (← skip? ':' text)
        let sign := if c = '-' ∧ (hours ≠ 0 ∨ minutes ≠ 0) then "-" else "+"
        some (sign ++ padded 2 hours ++ ":" ++ padded 2 minutes, text)
      else some ("", c :: text)
  | [] => some ("", [])

/-- What follows the mark between a date and a time: a letter, or a space before a digit. -/
def afterMark? : List Char → Option (List Char)
  | 'T' :: text => some text
  | 't' :: text => some text
  | ' ' :: c :: text => if c.isDigit then some (c :: text) else none
  | _ => none

/-- The written form of a date or time in front of a text, and what follows it. -/
def moment? (text : List Char) : Option (String × List Char) :=
  match date? text with
  | none => time? text
  | some (date, rest) =>
      match afterMark? rest with
      | none => some (date, rest)
      | some rest => do
          let (time, rest) ← time? rest
          let (offset, rest) ← offset? rest
          some (date ++ "T" ++ time ++ offset, rest)

/-- A text starts like a date or a time. -/
def startsMoment (text : List Char) : Bool :=
  let digits := (text.takeWhile Char.isDigit).length
  match text.drop digits with
  | '-' :: _ => digits == 4
  | ':' :: _ => digits == 2
  | _ => false

end Toml
end Delegation
