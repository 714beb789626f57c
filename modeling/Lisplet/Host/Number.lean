import Lisplet.Fault
import Lisplet.Value.Equality

/-!
Numbers of the host: integers of any size and floats, and the conversions between them that can
fail. Truth values are not numbers.
-/

namespace Lisplet

namespace Binary64

/-- From here on integers are nearest to no finite float. -/
def overflowBound : Nat := Nat.pow 2 1024 - Nat.pow 2 970

def ofIntChecked (number : Int) : Except Fault Float :=
  if overflowBound ≤ number.natAbs then .error .integerTooLargeForFloat else .ok (ofInt number)

def toIntChecked (number : Float) : Except Fault Int :=
  match ofFloat number with
  | .nan => .error .nanToInteger
  | .infinite _ => .error .infinityToInteger
  | .finite negative mantissa exponent => .ok (truncate negative mantissa exponent)

end Binary64

inductive HostNumber
  | integer (number : Int)
  | float (number : Float)

namespace HostNumber

def ofObject? : HostObject → Option HostNumber
  | .integer number => some (.integer number)
  | .float number => some (.float number)
  | _ => none

def toFloat : HostNumber → Except Fault Float
  | integer number => Binary64.ofIntChecked number
  | float number => .ok number

def toInteger : HostNumber → Except Fault Int
  | integer number => .ok number
  | float number => Binary64.toIntChecked number

end HostNumber

def HostObject.toReal : HostObject → Except Fault Float
  | .integer number => Binary64.ofIntChecked number
  | .boolean truth => .ok (Binary64.ofInt (truthNumber truth))
  | .float number => .ok number
  | object => .error (.realRequired object.kind)

end Lisplet
