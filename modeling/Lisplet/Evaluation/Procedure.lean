import Lisplet.Evaluation.Run

/-!
Procedures: what there is to do for an expression, laid out as a tree. A procedure acts on the world
and asks for what it leaves to the evaluator that runs it, above all for the values of other
expressions.
-/

namespace Lisplet

inductive Procedure (request α : Type) : Type 1
  | done (result : α)
  | act {β : Type} (run : Run β) (next : β → Procedure request α)
  | ask (question : request) (next : Value → Procedure request α)

namespace Procedure

variable {request α β : Type}

def bind : Procedure request α → (α → Procedure request β) → Procedure request β
  | done result, continuation => continuation result
  | act run next, continuation => act run fun result => (next result).bind continuation
  | ask question next, continuation => ask question fun answer => (next answer).bind continuation

instance : Monad (Procedure request) where
  pure := done
  bind := bind

instance : MonadLift Run (Procedure request) where
  monadLift run := act run done

def run (answer : request → Run Value) : Procedure request α → Run α
  | done result => pure result
  | act action next => do (next (← action)).run answer
  | ask question next => do (next (← answer question)).run answer

end Procedure

structure Call where
  expression : Value
  scope : ScopeId

inductive Request
  | call (call : Call)
  | load (scope : ScopeId) (name start : Text)

namespace Request

def evaluate (expression : Value) (scope : ScopeId) : Procedure Request Value :=
  .ask (.call ⟨expression, scope⟩) .done

end Request

namespace Call

def evaluate (expression : Value) (scope : ScopeId) : Procedure Call Value :=
  .ask ⟨expression, scope⟩ .done

end Call

/-- The value of the last of several forms, which are evaluated in order; nil if there is none. -/
def sequence {request : Type} (evaluate : Value → ScopeId → Procedure request Value)
    (forms : List Value) (scope : ScopeId) : Procedure request Value :=
  forms.foldlM (fun _ form => evaluate form scope) .nil

end Lisplet
