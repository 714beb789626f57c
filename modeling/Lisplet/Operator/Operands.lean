import Lisplet.Failure
import Lisplet.Host.Number

/-!
Operands of the numeric operators. Integers stay integers, and one float among the operands makes
all of them floats.
-/

namespace Lisplet

inductive Operands
  | integers (first : Int) (rest : List Int)
  | floats (first : Float) (rest : List Float)

namespace Operands

def number (operator : Text) (argument : HostObject) : Except Failure HostNumber :=
  match HostNumber.ofObject? argument with
  | some number => .ok number
  | none => .error (.ofCause (.operandType operator argument.typeName) none)

def whole? : HostNumber → Option Int
  | .integer number => some number
  | .float _ => none

def promote (first : HostNumber) (rest : List HostNumber) : Except Fault Operands :=
  match whole? first, rest.mapM whole? with
  | some whole, some others => .ok (.integers whole others)
  | _, _ => do
    let head ← first.toFloat
    let others ← rest.mapM HostNumber.toFloat
    return .floats head others

def read (operator : Text) (minimum : Nat) (arguments : List HostObject) :
    Except Failure Operands :=
  if arguments.length < minimum then .error (.ofCause (.fewOperands operator minimum) none)
  else
    match arguments with
    | [] => .error (.ofCause (.fewOperands operator minimum) none)
    | first :: rest => do
      let first ← number operator first
      let rest ← rest.mapM (number operator)
      Failure.orFault (promote first rest)

end Operands

end Lisplet
