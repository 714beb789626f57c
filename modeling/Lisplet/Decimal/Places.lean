import Lisplet.Decimal.Layout
import Lisplet.Text.Pieces

/-!
Binary64 numbers as decimals with a given number of places behind the point, positional or
scientific, and the general form that chooses between them. Rounding is exact, a half goes to the
even neighbour.
-/

namespace Lisplet

namespace Decimal

structure Style where
  upper : Bool
  full : Bool

def withPoint (style : Style) (places : Nat) (digits : Text) : Text :=
  let split := digits.length - places
  let fraction := digits.drop split
  if fraction.isEmpty && !style.full then digits.take split
  else digits.take split ++ "." ++ fraction

/-- The smallest positive binary64 number has this many places. As the others are multiples of it,
none has a digit other than zero behind them, also where the first digit is followed by a point. -/
def longestFraction : Nat := 1074

def computedPlaces (places : Nat) : Nat :=
  min places longestFraction

def trailingZeros (places : Nat) : Piece :=
  .run (CodePoint.ofChar '0') (places - longestFraction)

def fixed (style : Style) (places numerator denominator : Nat) : Pieces :=
  let computed := computedPlaces places
  let rounded := roundHalfEven (numerator * Nat.pow 10 computed) denominator
  [.text (withPoint style computed (padZeros (computed + 1) (Text.ofNat rounded))),
    trailingZeros places]

def leadingDigits (places numerator denominator : Nat) : Text × Int :=
  if numerator = 0 then (padZeros (places + 1) [], 0)
  else
    let leading := leadingExponent numerator denominator
    let (scaled, unit) := inUnits (leading - places) numerator denominator
    let rounded := roundHalfEven scaled unit
    if rounded < Nat.pow 10 (places + 1) then (Text.ofNat rounded, leading)
    else (Text.ofNat (rounded / 10), leading + 1)

def exponentSuffix (style : Style) (exponent : Int) : Text :=
  exponentText { floatLayout with exponentMark := if style.upper then "E" else "e" } exponent

def scientific (style : Style) (places numerator denominator : Nat) : Pieces :=
  let computed := computedPlaces places
  let (digits, exponent) := leadingDigits computed numerator denominator
  [.text (withPoint style computed digits), trailingZeros places,
    .text (exponentSuffix style exponent)]

def withoutZeros (digits : Text) : Text :=
  (digits.reverse.dropWhile (· = CodePoint.ofChar '0')).reverse

def generalDigits (style : Style) (places : Nat) (digits : Text) : Text :=
  if style.full then withPoint style places digits
  else
    let split := digits.length - places
    let fraction := withoutZeros (digits.drop split)
    withPoint style fraction.length (digits.take split ++ fraction)

/-- The form with a given number of significant digits. It is scientific where the exponent is less
than -4 or leaves the significant digits. -/
def general (style : Style) (significant numerator denominator : Nat) : Pieces :=
  let places := significant - 1
  let computed := computedPlaces places
  let (digits, exponent) := leadingDigits computed numerator denominator
  let zeros : Pieces := if style.full then [trailingZeros places] else []
  if exponent < -4 ∨ computed < exponent then
    .text (generalDigits style computed digits) :: zeros
      ++ [.text (exponentSuffix style exponent)]
  else
    let fraction := (computed - exponent).toNat
    .text (generalDigits style fraction (padZeros (fraction + 1) digits)) :: zeros

inductive Form
  | fixed
  | scientific
  | general
deriving DecidableEq

def Form.write (style : Style) (precision numerator denominator : Nat) : Form → Pieces
  | .fixed => Decimal.fixed style precision numerator denominator
  | .scientific => Decimal.scientific style precision numerator denominator
  | .general => Decimal.general style precision numerator denominator

end Decimal

end Lisplet
