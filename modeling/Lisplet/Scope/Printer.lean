import Lisplet.Scope
import Lisplet.Value.Printer

/-!
Written forms of scopes: their bindings, and a summary.
-/

namespace Lisplet

namespace Forest

def render (forest : Forest) (scope : ScopeId) : Text :=
  let shown := (forest.bindings scope).map fun (name, value) => name ++ ": " ++ value.debug
  "\x7b" ++ Text.join ", " shown ++ "\x7d"
    ++ if (forest.parent? scope).isSome then " -> ..." else ""

def debug (forest : Forest) (scope : ScopeId) : Text :=
  "<Context " ++ Text.ofNat (forest.bindings scope).length ++ " bindings, depth "
    ++ Text.ofNat (forest.ancestors scope).length ++ ">"

end Forest

end Lisplet
