/-!
# Binary numbers of double precision

Signed numbers with a significand of 53 bits and a bounded binary exponent, the two
infinities and the value that is no number. A positive fraction is rounded to the nearest
such number, ties to even significands.
-/

namespace Delegation

/-- A number of double precision. -/
inductive Double
  /-- The significand times two to the power of the exponent, negated or not. -/
  | finite (negative : Bool) (significand : Nat) (exponent : Int)
  | infinite (negative : Bool)
  | notANumber
  deriving DecidableEq

namespace Double

/-- The lowest exponent. -/
def lowestExponent : Int := -1074

/-- The highest exponent. -/
def highestExponent : Int := 971

/-- A zero. -/
def zero (negative : Bool) : Double := finite negative 0 lowestExponent

/-- A numerator and a denominator times a power of a base. -/
def scale (base : Nat) (exponent : Int) (fraction : Nat × Nat) : Nat × Nat :=
  if 0 ≤ exponent then (fraction.1 * Nat.pow base exponent.toNat, fraction.2)
  else (fraction.1, fraction.2 * Nat.pow base (-exponent).toNat)

/-- The nearest whole number to a fraction, a tie going to the even one. -/
def roundEven (fraction : Nat × Nat) : Nat :=
  let floor := fraction.1 / fraction.2
  let rest := 2 * (fraction.1 % fraction.2)
  if rest < fraction.2 || (rest == fraction.2 && floor % 2 == 0) then floor else floor + 1

/-- The exponent at which the significand of a positive fraction has 53 bits, or the lowest
one. -/
def exponentOf (fraction : Nat × Nat) : Int :=
  let guess : Int := (Nat.log2 fraction.1 : Int) - Nat.log2 fraction.2 - 53
  let scaled := scale 2 (-guess) fraction
  let exact := if 0x20000000000000 ≤ scaled.1 / scaled.2 then guess + 1 else guess
  max exact lowestExponent

/-- The nearest number to a fraction. -/
def ofFraction (negative : Bool) (fraction : Nat × Nat) : Double :=
  if fraction.1 = 0 then zero negative
  else
    let exponent := exponentOf fraction
    let significand := roundEven (scale 2 (-exponent) fraction)
    let carried := significand = 0x20000000000000
    let exponent := if carried then exponent + 1 else exponent
    let significand := if carried then 0x10000000000000 else significand
    if highestExponent < exponent then infinite negative
    else finite negative significand exponent

/-- The nearest number to a whole number. -/
def ofInt (value : Int) : Double :=
  ofFraction (value < 0) (value.natAbs, 1)

/-- The nearest number to decimal digits times a power of ten. -/
def ofDecimal (negative : Bool) (digits : Nat) (exponent : Int) : Double :=
  let magnitude : Int := (Nat.toDigits 10 digits).length + exponent
  if digits = 0 ∨ magnitude < -330 then zero negative
  else if 310 < magnitude then infinite negative
  else ofFraction negative (scale 10 exponent (digits, 1))

/-- The fraction that the absolute value of a number is; zero unless the number is finite. -/
def fraction : Double → Nat × Nat
  | finite _ significand exponent => scale 2 exponent (significand, 1)
  | _ => (0, 1)

/-- A number counts as true unless it is a zero. -/
def isNonzero : Double → Bool
  | finite _ significand _ => significand != 0
  | _ => true

/-- The nearest whole number of a number without its sign, a half going up. -/
def roundHalfUp (fraction : Nat × Nat) : Nat :=
  (2 * fraction.1 + fraction.2) / (2 * fraction.2)

/-- The nearest whole number between two bounds, a half going away from zero; zero for what
is no number. -/
def toIntWithin (low high : Int) : Double → Int
  | notANumber => 0
  | infinite negative => if negative then low else high
  | finite negative significand exponent =>
      let size : Int := roundHalfUp (scale 2 exponent (significand, 1))
      max low (min high (if negative then -size else size))

end Double
end Delegation
