import Lisplet.Host.Adapter
import Lisplet.Library.Basic
import Lisplet.Library.Math
import Lisplet.Library.Sample

/-!
Calls of host functions. The arguments go through the adapters and have to fit the signature before
the operation gets them; it has to give a single result.
-/

namespace Lisplet

namespace Operation

def run : Operation → List HostObject → Except Failure HostObject
  | builtin operation, arguments => operation.run arguments
  | math operation, arguments => Failure.orFault (operation.run arguments)
  | sample operation, arguments => operation.run arguments

def printed : Operation → List HostObject → Text
  | builtin operation, arguments => operation.printed arguments
  | math _, _ | sample _, _ => []

end Operation

namespace HostFunction

def handOver (host : HostFunction) (arguments : List Value) : List HostObject :=
  if host.unwrap then arguments.map Value.toHost else arguments.map .value

def bind (host : HostFunction) (arguments : List HostObject) : Except Failure Unit :=
  match host.signature with
  | none => .ok ()
  | some signature =>
    match signature.bind arguments.length with
    | .ok () => .ok ()
    | .error failure => .error (.ofCause (.binding host.name failure) none)

def adapted (host : HostFunction) (arguments : List Value) : Except Failure (List HostObject) := do
  let arguments ← Adapter.applyAll host.adapters (host.handOver arguments)
  host.bind arguments
  return arguments

def accept (host : HostFunction) : HostObject → Except Failure Value
  | .tuple items => .error (.ofFault (.returnedSeveralResults host.name items.length))
  | result => .ok (Value.ofHost result)

end HostFunction

end Lisplet
