/-!
# Powers modulo a number

The remainder of a power, found by repeated squaring.
-/

namespace Delegation
namespace Number

/-- The remainder of a power. -/
def powMod (base exponent modulus : Nat) : Nat :=
  if exponent = 0 then 1 % modulus
  else
    let half := powMod base (exponent / 2) modulus
    let square := half * half % modulus
    if exponent % 2 = 0 then square else square * base % modulus
termination_by exponent
decreasing_by omega

end Number
end Delegation
