import Lisplet.Decimal.Binary64
import Lisplet.Text.CodePoint

/-!
Decimal literals. A whole literal is digits with an optional sign; a general one may have a point
among its digits and an exponent, and needs a digit before the exponent.
-/

namespace Lisplet

namespace Decimal

def digitsValue (digits : Text) : Nat :=
  digits.foldl (fun value digit => value * 10 + digit.digitValue) 0

def applySign (negative : Bool) (magnitude : Nat) : Int :=
  if negative then -(magnitude : Int) else magnitude

def minus : CodePoint := CodePoint.ofChar '-'

def plus : CodePoint := CodePoint.ofChar '+'

def point : CodePoint := CodePoint.ofChar '.'

def zero : CodePoint := CodePoint.ofChar '0'

def splitSign : Text → Bool × Text
  | [] => (false, [])
  | first :: rest =>
    if first = minus then (true, rest)
    else if first = plus then (false, rest)
    else (false, first :: rest)

def wholeLiteral? (text : Text) : Option (Bool × Text) :=
  let (negative, digits) := splitSign text
  if digits.isEmpty || !digits.all CodePoint.isDigit then none else some (negative, digits)

/-- A general literal, as its sign, its digits without the point, and the power of ten that scales
them. -/
structure Literal where
  negative : Bool
  digits : Text
  exponent : Int

def exponentPart? : Text → Option Int
  | [] => some 0
  | mark :: rest =>
    if mark = CodePoint.ofChar 'e' ∨ mark = CodePoint.ofChar 'E' then
      (wholeLiteral? rest).map fun (negative, digits) => applySign negative (digitsValue digits)
    else none

namespace Literal

def read? (text : Text) : Option Literal :=
  let (negative, unsigned) := splitSign text
  let whole := unsigned.takeWhile CodePoint.isDigit
  let behindWhole := unsigned.dropWhile CodePoint.isDigit
  let (fraction, behindDigits) :=
    match behindWhole with
    | [] => ([], [])
    | first :: rest =>
      if first = point then (rest.takeWhile CodePoint.isDigit, rest.dropWhile CodePoint.isDigit)
      else ([], first :: rest)
  if whole.isEmpty && fraction.isEmpty then none
  else
    (exponentPart? behindDigits).map fun exponent =>
      { negative, digits := whole ++ fraction, exponent := exponent - fraction.length }

/-- Beyond this many digits before the point every decimal is out of the range of floats. -/
def mostWholeDigits : Int := 310

/-- With this many zeros behind the point every decimal is nearest to zero. -/
def mostLeadingZeros : Int := 330

/-- Floats and the midpoints between them have fewer significant digits than this. -/
def decisiveDigits : Nat := 800

/-- A literal with the same nearest float and not many digits, provided that the first digit is not
zero. Of the digits behind the decisive ones only matters whether they are zeros. -/
def shorten (literal : Literal) : Literal :=
  match literal.digits.drop decisiveDigits with
  | [] => literal
  | first :: rest =>
    let last := if (first :: rest).all (· = zero) then zero else CodePoint.ofChar '1'
    { literal with
      digits := literal.digits.take decisiveDigits ++ [last]
      exponent := literal.exponent + rest.length }

def toFloat (literal : Literal) : Float :=
  let significant := { literal with digits := literal.digits.dropWhile (· = zero) }
  let whole := (significant.digits.length : Int) + literal.exponent
  if significant.digits.isEmpty ∨ whole < -mostLeadingZeros then
    Binary64.nearest literal.negative 0 1
  else if mostWholeDigits < whole then if literal.negative then -1.0 / 0.0 else 1.0 / 0.0
  else
    let short := significant.shorten
    let (numerator, denominator) := inUnits (-short.exponent) (digitsValue short.digits) 1
    Binary64.nearest literal.negative numerator denominator

end Literal

end Decimal

end Lisplet
