import Lisplet.Host.Number
import Lisplet.Integer64

/-!
Powers. Those of integers are taken modulo `2 ^ 64` by repeated squaring; those of floats are real
numbers, so a negative base with a fractional exponent has none.
-/

namespace Lisplet

namespace Integer64

def powerModulo (base : Int) (exponent : Nat) : Int :=
  if exponent = 0 then 1
  else
    let half := powerModulo (base * base % modulus) (exponent / 2)
    if exponent % 2 = 1 then base * half % modulus else half
termination_by exponent

end Integer64

namespace Binary64

def isZero (number : Float) : Bool :=
  number == 0.0

def isWhole (number : Float) : Bool :=
  number.floor == number

/-- The power of one float by another. What leaves the range of floats is a fault, unless an operand
is infinite already. -/
def power (base exponent : Float) : Except Fault Float :=
  let result := base.pow exponent
  if !(base.isFinite && exponent.isFinite) then .ok result
  else if isZero base && exponent < 0.0 then .error .zeroToNegativePower
  else if base < 0.0 && !isWhole exponent then
    if (base.abs.pow exponent).isInf then .error .complexPowerOutOfRange else .ok result
  else if result.isInf then .error .powerOutOfRange
  else .ok result

end Binary64

end Lisplet
