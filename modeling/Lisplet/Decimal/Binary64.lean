import Lisplet.Decimal.Rounding

/-!
The values of 64-bit binary floating point numbers as exact rationals: decoding of the bits, and
the nearest float to a rational number.
-/

namespace Lisplet

/-- What a float stands for. A finite one is `mantissa * 2 ^ exponent` with its sign. -/
inductive Binary64
  | nan
  | infinite (negative : Bool)
  | finite (negative : Bool) (mantissa : Nat) (exponent : Int)

namespace Binary64

def leastExponent : Int := -1074

def fieldWeight : Nat := 0x10000000000000

def specialField : Nat := 0x7FF

def signWeight : Nat := 0x8000000000000000

def ofBits (bits : Nat) : Binary64 :=
  let negative := decide (signWeight ≤ bits)
  let field := bits / fieldWeight % 2048
  let fraction := bits % fieldWeight
  if field = specialField then
    if fraction = 0 then infinite negative else nan
  else if field = 0 then finite negative fraction leastExponent
  else finite negative (fraction + fieldWeight) (leastExponent + field - 1)

def ofFloat (number : Float) : Binary64 :=
  ofBits number.toBits.toNat

/-- The bits of the float nearest to the positive rational `numerator / denominator`, ties going to
the even mantissa. Whatever is too large has the bits of infinity. -/
def nearestBits (numerator denominator : Nat) : Nat :=
  let estimate : Int := (Nat.log2 numerator : Int) - Nat.log2 denominator
  let binaryExponent :=
    if scaledBelow estimate then estimate - 1 else estimate
  let exponent := max (binaryExponent - 52) leastExponent
  let mantissa :=
    match exponent with
    | .ofNat power => Decimal.roundHalfEven numerator (denominator * Nat.pow 2 power)
    | .negSucc power => Decimal.roundHalfEven (numerator * Nat.pow 2 (power + 1)) denominator
  min ((exponent - leastExponent).toNat * fieldWeight + mantissa) (specialField * fieldWeight)
where
  scaledBelow : Int → Bool
    | .ofNat power => numerator < denominator * Nat.pow 2 power
    | .negSucc power => numerator * Nat.pow 2 (power + 1) < denominator

def nearest (negative : Bool) (numerator denominator : Nat) : Float :=
  let magnitude := if numerator = 0 then 0 else nearestBits numerator denominator
  Float.ofBits (UInt64.ofNat (if negative then signWeight + magnitude else magnitude))

def ofInt (number : Int) : Float :=
  nearest (decide (number < 0)) number.natAbs 1

def ratio (mantissa : Nat) : Int → Nat × Nat
  | .ofNat power => (mantissa * Nat.pow 2 power, 1)
  | .negSucc power => (mantissa, Nat.pow 2 (power + 1))

def truncate (negative : Bool) (mantissa : Nat) (exponent : Int) : Int :=
  let (numerator, denominator) := ratio mantissa exponent
  if negative then -((numerator / denominator : Nat) : Int) else (numerator / denominator : Nat)

end Binary64

end Lisplet
