/-!
# Durations

Lengths of time in whole nanoseconds and their written form. A duration is written in the
largest unit of which it holds at least one, with an exact fraction without closing zeros.
-/

namespace Delegation

/-- A length of time. -/
structure Duration where
  /-- The length in nanoseconds. -/
  nanos : Nat
  deriving DecidableEq

namespace Duration

instance : Inhabited Duration := ⟨⟨0⟩⟩

/-- A number of milliseconds. -/
def ofMillis (millis : Nat) : Duration := ⟨millis * 1000000⟩

/-- A number of seconds. -/
def ofSecs (secs : Nat) : Duration := ⟨secs * 1000000000⟩

/-- The whole milliseconds of a duration. -/
def millis (duration : Duration) : Nat := duration.nanos / 1000000

/-- The decimal digits of a number below a power of ten, with leading zeros. -/
def paddedDigits : Nat → Nat → List Char
  | 0, _ => []
  | width + 1, value =>
      paddedDigits width (value / 10) ++ [Char.ofNat (0x30 + value % 10)]

/-- The written fraction of a remainder with the given number of places: a point and the
digits up to the last one that is not zero, or nothing. -/
def fractionText (places remainder : Nat) : String :=
  match ((paddedDigits places remainder).reverse.dropWhile (· == '0')).reverse with
  | [] => ""
  | digits => String.ofList ('.' :: digits)

/-- A duration written in a unit of ten to the power of `places` nanoseconds. -/
def renderIn (places : Nat) (unit : String) (duration : Duration) : String :=
  toString (duration.nanos / Nat.pow 10 places) ++
    fractionText places (duration.nanos % Nat.pow 10 places) ++ unit

/-- The written form of a duration. -/
def render (duration : Duration) : String :=
  if 1000000000 ≤ duration.nanos then duration.renderIn 9 "s"
  else if 1000000 ≤ duration.nanos then duration.renderIn 6 "ms"
  else if 1000 ≤ duration.nanos then duration.renderIn 3 "µs"
  else duration.renderIn 0 "ns"

end Duration
end Delegation
