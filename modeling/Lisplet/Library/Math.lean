import Lisplet.Failure
import Lisplet.Host.Number
import Lisplet.Library
import Lisplet.Operator.Power

/-!
The library of mathematical functions. Results that are undefined or leave the range of floats are
faults.
-/

namespace Lisplet

namespace RealFunction

def compute : RealFunction → Float → Float
  | sine => Float.sin
  | cosine => Float.cos
  | tangent => Float.tan
  | squareRoot => Float.sqrt
  | exponential => Float.exp
  | logarithm => Float.log

def run (function : RealFunction) (number : Float) : Except Fault Float :=
  let result := function.compute number
  if result.isNaN && !number.isNaN then .error .mathDomain
  else if result.isInf && number.isFinite then
    .error (if function = exponential then .mathRange else .mathDomain)
  else .ok result

end RealFunction

namespace MathOperation

def runPower (base exponent : Float) : Except Fault Float :=
  let result := base.pow exponent
  if result.isFinite || !(base.isFinite && exponent.isFinite) then .ok result
  else if result.isNaN || Binary64.isZero base then .error .mathDomain
  else .error .mathRange

def runAbsolute : HostObject → Except Fault HostObject
  | .integer number => .ok (.integer number.natAbs)
  | .boolean truth => .ok (.integer (truthNumber truth))
  | .float number => .ok (.float number.abs)
  | object => .error (.badAbsolute object.kind)

def run : MathOperation → List HostObject → Except Fault HostObject
  | real function, [argument] => do return .float (← function.run (← argument.toReal))
  | floor, [argument] => do
    return .integer (← Binary64.toIntChecked (← argument.toReal).floor)
  | ceiling, [argument] => do
    return .integer (← Binary64.toIntChecked (← argument.toReal).ceil)
  | power, [base, exponent] => do
    return .float (← runPower (← base.toReal) (← exponent.toReal))
  | absolute, [argument] => runAbsolute argument
  | truncate, [argument] =>
    match HostNumber.ofObject? argument with
    | some number => do return .integer (← number.toInteger)
    | none => .error (.realRequired argument.kind)
  | _, _ => .error .unfitArguments

end MathOperation

namespace Library

def realFunction (name : Text) (operation : MathOperation) (signature : Option Signature) :
    Text × (Text → LibraryEntry) :=
  function name (.math operation) signature [.arity 1, .toFloat 0]

def oneNumber : Option Signature :=
  some [Parameter.required "x"]

def circleNumber : Float := 3.141592653589793

def eulerNumber : Float := 2.718281828459045

def math : Library :=
  [realFunction "sin" (.real .sine) oneNumber,
    realFunction "cos" (.real .cosine) oneNumber,
    realFunction "tan" (.real .tangent) oneNumber,
    realFunction "sqrt" (.real .squareRoot) oneNumber,
    realFunction "exp" (.real .exponential) oneNumber,
    realFunction "log" (.real .logarithm) none,
    realFunction "floor" .floor oneNumber,
    realFunction "ceil" .ceiling oneNumber,
    function "pow" (.math .power) (some [Parameter.required "x", Parameter.required "y"])
      [.arity 2, .toFloat 0, .toFloat 1],
    function "abs" (.math .absolute) oneNumber [.arity 1],
    function "trunc" (.math .truncate) none [.arity 1, .toInteger 0],
    constant "pi" (.float circleNumber none),
    constant "e" (.float eulerNumber none)]

end Library

end Lisplet
