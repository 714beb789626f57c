import Lisplet.Evaluation.Procedure
import Lisplet.Host.Call

/-!
Application of values to arguments that are evaluated already.
-/

namespace Lisplet

def Run.bindAll (scope : ScopeId) : List Identifier → List Value → Run Unit
  | parameter :: parameters, argument :: arguments => do
    Run.define scope parameter.name argument
    Run.bindAll scope parameters arguments
  | _, _ => return ()

def HostFunction.call (host : HostFunction) (arguments : List Value) : Run Value := do
  let adapted ← Run.ofExcept (host.adapted arguments)
  Run.print (host.operation.printed adapted)
  let result ← Run.ofExcept (host.operation.run adapted)
  Run.ofExcept (host.accept result)

/-- Applies a value. The body of a closure runs in a new scope inside the one it captured. -/
def apply (callee : Value) (arguments : List Value) : Procedure Request Value :=
  match callee with
  | .closure name parameters body captured ref => do
    if arguments.length ≠ parameters.length then
      Run.failWith (.closureArguments name parameters.length arguments.length) ref
    else
      let scope ← Run.openScope captured
      Run.bindAll scope parameters arguments
      sequence Request.evaluate body scope
  | .function host => host.call arguments
  | .form special => Run.failWith (.formApplied special.name) none
  | other => Run.failWith (.notCallable other) other.ref

end Lisplet
