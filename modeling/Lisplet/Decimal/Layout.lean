import Lisplet.Decimal.Shortest
import Lisplet.Text.CodePoint

/-!
The written form of floats: the shortest decimal, positional for moderate exponents and scientific
for the others.
-/

namespace Lisplet

namespace Decimal

structure Layout where
  leastPositional : Int
  greatestPositional : Int
  wholeSuffix : Text
  exponentMark : Text
  exponentDigits : Nat

def padZeros (length : Nat) (digits : Text) : Text :=
  digits.leftpad length (CodePoint.ofChar '0')

def exponentText (layout : Layout) (exponent : Int) : Text :=
  layout.exponentMark ++ (if exponent < 0 then "-" else "+" : Text)
    ++ padZeros layout.exponentDigits (Text.ofNat exponent.natAbs)

/-- Digits with a point behind the first `whole` of them; where there are fewer digits, zeros stand
in, and with no whole digit a zero stands before the point. -/
def positional (layout : Layout) (digits : Text) (whole : Int) : Text :=
  let zeros (count : Nat) : Text := List.replicate count (CodePoint.ofChar '0')
  match whole with
  | .ofNat 0 => "0." ++ digits
  | .ofNat count =>
    if digits.length ≤ count then digits ++ zeros (count - digits.length) ++ layout.wholeSuffix
    else digits.take count ++ "." ++ digits.drop count
  | .negSucc missing => "0." ++ zeros (missing + 1) ++ digits

def scientificDigits : Text → Text
  | first :: second :: rest => first :: CodePoint.ofChar '.' :: second :: rest
  | digits => digits

def Scaled.render (layout : Layout) (decimal : Scaled) : Text :=
  let digits := Text.ofNat decimal.digits
  let leading := decimal.exponent + digits.length - 1
  if layout.leastPositional ≤ leading ∧ leading ≤ layout.greatestPositional then
    positional layout digits (leading + 1)
  else scientificDigits digits ++ exponentText layout leading

/-- Floats are positional from `0.0001` up to sixteen digits before the point, always with a
fraction; other exponents have a sign and at least two digits. -/
def floatLayout : Layout where
  leastPositional := -4
  greatestPositional := 15
  wholeSuffix := ".0"
  exponentMark := "e"
  exponentDigits := 2

def signText (negative : Bool) : Text :=
  if negative then "-" else ""

def floatText (number : Float) : Text :=
  match Binary64.ofFloat number with
  | .nan => "nan"
  | .infinite negative => signText negative ++ "inf"
  | .finite negative 0 _ => signText negative ++ "0.0"
  | .finite negative mantissa exponent =>
    signText negative ++ (shortest mantissa exponent).render floatLayout

end Decimal

end Lisplet
