/-!
Rounding of quotients of natural numbers, and the place of their first decimal digit.
-/

namespace Lisplet

namespace Decimal

def roundHalfEven (numerator denominator : Nat) : Nat :=
  let quotient := numerator / denominator
  let twice := 2 * (numerator % denominator)
  if twice < denominator ∨ (twice = denominator ∧ quotient % 2 = 0) then quotient
  else quotient + 1

def digitCount (number : Nat) : Nat :=
  (Nat.toDigits 10 number).length

/-- The largest `e` with `10 ^ e ≤ numerator / denominator`, both being positive. -/
def leadingExponent (numerator denominator : Nat) : Int :=
  if denominator ≤ numerator then (digitCount (numerator / denominator) : Int) - 1
  else -(digitCount ((denominator - 1) / numerator) : Int)

def inUnits (exponent : Int) (numerator denominator : Nat) : Nat × Nat :=
  match exponent with
  | .ofNat power => (numerator, denominator * Nat.pow 10 power)
  | .negSucc power => (numerator * Nat.pow 10 (power + 1), denominator)

end Decimal

end Lisplet
