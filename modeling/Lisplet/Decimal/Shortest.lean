import Lisplet.Decimal.Binary64

/-!
The shortest decimal of a float: the least number of digits that reads back as the same float, and
among those decimals the one nearest to the float.
-/

namespace Lisplet

namespace Decimal

structure Scaled where
  digits : Nat
  exponent : Int

namespace Scaled

def dropZeros : Nat → Scaled → Scaled
  | 0, decimal => decimal
  | fuel + 1, decimal =>
    if decimal.digits % 10 = 0 ∧ decimal.digits ≠ 0 then
      dropZeros fuel ⟨decimal.digits / 10, decimal.exponent + 1⟩
    else decimal

end Scaled

/-- The rationals that read back as a float: those between two bounds, in quarters of the unit of
its mantissa. The bounds themselves belong to it when the mantissa is even. -/
structure Interval where
  low : Nat
  value : Nat
  high : Nat
  closed : Bool

/-- Below a power of two the neighbouring float is only half as far away. -/
def intervalOf (mantissa : Nat) (exponent : Int) : Interval :=
  let nearBelow := mantissa = Binary64.fieldWeight ∧ exponent ≠ Binary64.leastExponent
  { low := if nearBelow then 4 * mantissa - 1 else 4 * mantissa - 2
    value := 4 * mantissa
    high := 4 * mantissa + 2
    closed := mantissa % 2 = 0 }

def Interval.admits (interval : Interval) (quarter unit candidate : Nat) : Bool :=
  let scaled := candidate * unit
  if interval.closed then
    interval.low * quarter ≤ scaled && scaled ≤ interval.high * quarter
  else
    interval.low * quarter < scaled && scaled < interval.high * quarter

/-- The better of the two neighbours of the float on the grid of decimals with the given exponent,
if one of them reads back. -/
def nearestOnGrid? (interval : Interval) (quarterExponent : Int) (gridExponent : Int) :
    Option Nat :=
  let (binary, one) := Binary64.ratio 1 quarterExponent
  let (quarter, unit) := inUnits gridExponent binary one
  let below := interval.value * quarter / unit
  let above := below + 1
  let distanceBelow := interval.value * quarter - below * unit
  let distanceAbove := above * unit - interval.value * quarter
  let belowIsNearer :=
    distanceBelow < distanceAbove || (distanceBelow == distanceAbove && below % 2 == 0)
  match interval.admits quarter unit below, interval.admits quarter unit above with
  | true, true => some (if belowIsNearer then below else above)
  | true, false => some below
  | false, true => some above
  | false, false => none

def mostDigits : Nat := 17

def shortest (mantissa : Nat) (exponent : Int) : Scaled :=
  let (numerator, denominator) := Binary64.ratio mantissa exponent
  let leading := leadingExponent numerator denominator
  let interval := intervalOf mantissa exponent
  let grids := (List.range mostDigits).map fun (extra : Nat) => leading - extra
  let found := grids.findSome? fun gridExponent =>
    (nearestOnGrid? interval (exponent - 2) gridExponent).map fun digits =>
      Scaled.mk digits gridExponent
  match found with
  | some decimal => decimal.dropZeros mostDigits
  | none => ⟨0, 0⟩

end Decimal

end Lisplet
