import Lisplet.Operator.Operands
import Lisplet.Operator.Power

/-!
The arithmetic operators. They take any number of operands from left to right; integer results are
computed exactly and wrapped once.
-/

namespace Lisplet

namespace Arithmetic

def name : Arithmetic → Text
  | add => "+"
  | subtract => "-"
  | multiply => "*"
  | divide => "/"
  | power => "**"

def minimum : Arithmetic → Nat
  | add | subtract | multiply => 1
  | divide | power => 2

def divideIntegers (dividend divisor : Int) : Except Fault Int :=
  if divisor = 0 then .error .integerDivisionByZero else .ok (dividend.tdiv divisor)

def divideFloats (dividend divisor : Float) : Except Fault Float :=
  if Binary64.isZero divisor then .error .floatDivisionByZero else .ok (dividend / divisor)

def powerOfIntegers (base exponent : Int) : Int :=
  Integer64.powerModulo base exponent.toNat

/-- The exact result on integers, or for powers one that is congruent to it. -/
def onIntegers (first : Int) (rest : List Int) : Arithmetic → Except Fault Int
  | add => .ok (rest.foldl (· + ·) first)
  | subtract => .ok (if rest.isEmpty then -first else rest.foldl (· - ·) first)
  | multiply => .ok (rest.foldl (· * ·) first)
  | divide => rest.foldlM divideIntegers first
  | power => .ok (rest.foldl powerOfIntegers first)

def onFloats (first : Float) (rest : List Float) : Arithmetic → Except Fault Float
  | add => .ok (rest.foldl (· + ·) first)
  | subtract => .ok (if rest.isEmpty then -first else rest.foldl (· - ·) first)
  | multiply => .ok (rest.foldl (· * ·) first)
  | divide => rest.foldlM divideFloats first
  | power => rest.foldlM Binary64.power first

def needsFloats (rest : List Int) : Arithmetic → Bool
  | power => rest.any (· < 0)
  | _ => false

def compute (operator : Arithmetic) : Operands → Except Fault HostObject
  | .integers first rest =>
    if operator.needsFloats rest then do
      let first ← Binary64.ofIntChecked first
      let rest ← rest.mapM Binary64.ofIntChecked
      return .float (← operator.onFloats first rest)
    else do return .integer (Integer64.wrap (← operator.onIntegers first rest))
  | .floats first rest => do return .float (← operator.onFloats first rest)

def run (operator : Arithmetic) (arguments : List HostObject) : Except Failure HostObject := do
  let operands ← Operands.read operator.name operator.minimum arguments
  Failure.orFault (operator.compute operands)

end Arithmetic

end Lisplet
