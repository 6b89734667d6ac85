import Delegation.Number.Double

/-!
# Shortest decimals

The written form of a number of double precision: the fewest decimal digits that are nearer
to it than to any other such number, without an exponent.
-/

namespace Delegation
namespace Double

/-- A decimal: digits times a power of ten. -/
structure Decimal where
  digits : Nat
  exponent : Int
  deriving DecidableEq

/-- The fraction that a decimal is. -/
def Decimal.fraction (decimal : Decimal) : Nat × Nat :=
  scale 10 decimal.exponent (decimal.digits, 1)

/-- One fraction is below another one. -/
def isBelow (first second : Nat × Nat) : Bool :=
  decide (first.1 * second.2 < second.1 * first.2)

/-- The bounds of the fractions that are rounded to a significand with an exponent: half way
to the next number on each side. -/
def bounds (significand : Nat) (exponent : Int) : (Nat × Nat) × (Nat × Nat) :=
  let below := if significand = 0x10000000000000 ∧ lowestExponent < exponent then 1 else 2
  (scale 2 (exponent - 2) (4 * significand - below, 1),
    scale 2 (exponent - 2) (4 * significand + 2, 1))

/-- A decimal is rounded to a significand with an exponent. -/
def readsBack (significand : Nat) (exponent : Int) (decimal : Decimal) : Bool :=
  let (low, high) := bounds significand exponent
  let value := decimal.fraction
  if significand % 2 = 0 then !isBelow value low && !isBelow high value
  else isBelow low value && isBelow value high

/-- The number of digits of a fraction before its decimal point; negative where zeros follow
the point. -/
def magnitude (fraction : Nat × Nat) : Int :=
  let shifted := fraction.1 * Nat.pow 10 330 / fraction.2
  (Nat.toDigits 10 shifted).length - (330 : Int)

/-- The two decimals with a number of digits that are next to a fraction, the nearer first. -/
def neighbours (fraction : Nat × Nat) (digits : Nat) : List Decimal :=
  let exponent := magnitude fraction - digits
  let scaled := scale 10 (-exponent) fraction
  let floor := scaled.1 / scaled.2
  let below : Decimal := ⟨floor, exponent⟩
  let above : Decimal := ⟨floor + 1, exponent⟩
  if 2 * (scaled.1 % scaled.2) ≤ scaled.2 then [below, above] else [above, below]

/-- The decimal with the fewest digits that reads back. -/
def shortest (significand : Nat) (exponent : Int) : Decimal :=
  let fraction := scale 2 exponent (significand, 1)
  (((List.range 17).findSome? fun fewer =>
    (neighbours fraction (fewer + 1)).find? (readsBack significand exponent))).getD
      ⟨0, 0⟩

/-- A decimal without exponent. -/
def Decimal.render (decimal : Decimal) : String :=
  let digits := Nat.toDigits 10 decimal.digits
  if 0 ≤ decimal.exponent then
    String.ofList (digits ++ List.replicate decimal.exponent.toNat '0')
  else
    let places := (-decimal.exponent).toNat
    let padded := List.replicate (places + 1 - digits.length) '0' ++ digits
    let whole := padded.take (padded.length - places)
    let part := (padded.drop (padded.length - places)).reverse.dropWhile (· == '0')
    String.ofList (if part.isEmpty then whole else whole ++ '.' :: part.reverse)

/-- The written form of a number. -/
def render : Double → String
  | notANumber => "NaN"
  | infinite negative => if negative then "-inf" else "inf"
  | finite negative significand exponent =>
      (if negative then "-" else "") ++
        (if significand = 0 then "0" else (shortest significand exponent).render)

end Double
end Delegation
