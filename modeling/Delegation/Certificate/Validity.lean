import Delegation.Bytes.Der
import Delegation.Time.Calendar

/-!
# Times in certificates

A certificate says from when until when it holds. Both times must be dates that exist; they
are not compared with the present time.
-/

namespace Delegation
namespace Certificate

/-- The tag number of times with two digits for the year. -/
def shortTimeTag : Nat := 23

/-- The tag number of times with four digits for the year. -/
def longTimeTag : Nat := 24

/-- The value of a digit. -/
def digit? (byte : UInt8) : Option Nat :=
  if 0x30 ≤ byte ∧ byte ≤ 0x39 then some (byte.toNat - 0x30) else none

/-- A number of two digits up to a bound, and what follows it. -/
def twoDigits? (bound : Nat) : List UInt8 → Option (Nat × List UInt8)
  | high :: low :: bytes => do
      let value := (← digit? high) * 10 + (← digit? low)
      if value ≤ bound then some (value, bytes) else none
  | _ => none

/-- Two digits that may be left out, and what follows them. -/
def optionalDigits? (bound : Nat) (bytes : List UInt8) : Option (List UInt8) :=
  match bytes with
  | byte :: _ =>
      if (digit? byte).isSome then (twoDigits? bound bytes).map (·.2) else some bytes
  | [] => some []

/-- A day of a year, an hour and a minute, and what follows them. -/
def dayAndTime? (year : Nat) (bytes : List UInt8) : Option (List UInt8) := do
  let (month, bytes) ← twoDigits? 12 bytes
  let (day, bytes) ← twoDigits? 31 bytes
  let (_, bytes) ← twoDigits? 23 bytes
  let (_, bytes) ← twoDigits? 59 bytes
  if Calendar.isDate year month day then some bytes else none

/-- The mark of universal time. -/
def universalMark : UInt8 := 0x5A

/-- A zone: the mark of universal time, or a sign, hours and minutes. -/
def isZone : List UInt8 → Bool
  | [mark] => mark == universalMark
  | sign :: bytes =>
      (sign == 0x2B || sign == 0x2D) &&
        (((twoDigits? 12 bytes).bind fun read => twoDigits? 59 read.2).any fun read =>
          read.2.isEmpty)
  | [] => false

/-- A time with two digits for the year. -/
def isShortTime (bytes : List UInt8) : Bool :=
  let rest := do
    let (year, bytes) ← twoDigits? 99 bytes
    optionalDigits? 59 (← dayAndTime? (if year < 50 then 2000 + year else 1900 + year) bytes)
  rest.any isZone

/-- A fraction of a second, which may be left out, and the mark of universal time. -/
def isFractionAndMark : List UInt8 → Bool
  | [mark] => mark == universalMark
  | point :: byte :: bytes =>
      (point == 0x2E || point == 0x2C) && (digit? byte).isSome &&
        decide (bytes.dropWhile (fun byte => (digit? byte).isSome) = [universalMark])
  | [] => false

/-- A time with four digits for the year. -/
def isLongTime (bytes : List UInt8) : Bool :=
  let rest := do
    let (century, bytes) ← twoDigits? 99 bytes
    let (year, bytes) ← twoDigits? 99 bytes
    optionalDigits? 59 (← dayAndTime? (century * 100 + year) bytes)
  rest.any isFractionAndMark

/-- The element is a time. -/
def isTime (element : Der.Element) : Bool :=
  (decide (element.tag.number = shortTimeTag) && isShortTime element.contents) ||
    (decide (element.tag.number = longTimeTag) && isLongTime element.contents)

/-- What follows two times in the contents of a sequence is ignored. -/
def isValidity (contents : List UInt8) : Bool :=
  match (Der.split contents).1 with
  | first :: second :: _ => isTime first && isTime second
  | _ => false

end Certificate
end Delegation
