import Lisplet.Failure
import Lisplet.Host.Number

/-!
What adapters do to the arguments of a host function: they check how many there are, or turn one of
them into a float or an integer. A chain of adapters stops at the first one that refuses.
-/

namespace Lisplet

namespace Adapter

def index (place : Int) (count : Nat) : Except Failure (Fin count) :=
  if beyond : (count : Int) ≤ place then .error (.ofCause (.argumentMissing place count) none)
  else if fromStart : 0 ≤ place then .ok ⟨place.toNat, by omega⟩
  else if fromEnd : 0 ≤ place + count then .ok ⟨(place + count).toNat, by omega⟩
  else if place < Integer64.least then .error (.ofFault .oversizedIndex)
  else .error (.ofFault (.indexOutOfRange "list"))

def convert (place : Int) (conversion : HostNumber → Except Fault HostObject)
    (arguments : List HostObject) : Except Failure (List HostObject) := do
  let index ← index place arguments.length
  let argument := arguments[index]
  match HostNumber.ofObject? argument with
  | none => .error (.ofCause (.argumentNotNumber place argument.typeName) none)
  | some number => do
    let converted ← Failure.orFault (conversion number)
    return arguments.set index converted

def apply (arguments : List HostObject) : Adapter → Except Failure (List HostObject)
  | arity count =>
    if (arguments.length : Int) = count then .ok arguments
    else .error (.ofCause (.argumentCount count arguments.length) none)
  | toFloat place => convert place (fun number => number.toFloat.map .float) arguments
  | toInteger place => convert place (fun number => number.toInteger.map .integer) arguments

def applyAll (adapters : List Adapter) (arguments : List HostObject) :
    Except Failure (List HostObject) :=
  adapters.foldlM apply arguments

end Adapter

end Lisplet
