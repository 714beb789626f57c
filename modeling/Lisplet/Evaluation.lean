import Lisplet.Evaluation.Form
import Lisplet.Evaluation.Import

/-!
Evaluation of expressions. Identifiers stand for what they are bound to, lists are forms or
applications, and all other values stand for themselves. Evaluations nest up to a given depth.
-/

namespace Lisplet

def dispatch (scope : ScopeId) : Value → Procedure Request Value
  | .list [] _ => return .nil
  | .list (head :: operands) ref => do
    match ← Request.evaluate head scope with
    | .form special => runForm scope ref special.kind operands
    | callee => do
      let arguments ← operands.mapM (Request.evaluate · scope)
      apply callee arguments
  | .identifier name => Run.lookUp scope name
  | other => return other

def Catalogue.procedure (catalogue : Catalogue) (call : Call) : Procedure Call Value :=
  (dispatch call.scope call.expression).inline catalogue

/-- Evaluates an expression. Every failure notes the expressions that it goes through. -/
def evaluate (catalogue : Catalogue) : Nat → Evaluator
  | 0 => fun _ _ => Run.fail (.ofFault .depthExceeded)
  | depth + 1 => fun expression scope =>
    Run.within expression
      ((catalogue.procedure ⟨expression, scope⟩).run fun call =>
        evaluate catalogue depth call.expression call.scope)

end Lisplet
