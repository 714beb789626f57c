import Lisplet.Proofs.Procedures

/-!
How single expressions evaluate: constants stand for themselves, identifiers for what they are bound
to, a function in front of operands is called with what they evaluate to, and a name in front of any
operands runs the form that it is bound to.
-/

namespace Lisplet

namespace Run

variable {α : Type} {first second : Run α} {world : World}

theorem failing_congr {change : Failure → Failure} (same : first world = second world) :
    first.failing change world = second.failing change world := by
  rw [failing, same, failing]

theorem within_congr {frame : Value} (same : first world = second world) :
    first.within frame world = second.within frame world :=
  failing_congr same

end Run

namespace Procedure

variable {request α β ι : Type} {answer : request → Run Value}

theorem run_lift (run : Run α) : (liftM run : Procedure request α).run answer = run :=
  Run.bind_pure run

theorem run_ask (question : request) : (ask question done).run answer = answer question :=
  Run.bind_pure (answer question)

theorem run_then {first : Procedure request α} {next : α → Procedure request β}
    {world later : World} {result : α} (succeeds : first.run answer world = (.ok result, later)) :
    (first >>= next).run answer world = (next result).run answer later :=
  (congrFun (run_bind first next) world).trans (Run.bind_of_ok succeeds)

theorem run_mapM (step : ι → Procedure request β) (items : List ι) :
    (items.mapM step).run answer = items.mapM fun item => (step item).run answer := by
  induction items with
  | nil => rfl
  | cons item rest ih =>
      rw [List.mapM_cons, List.mapM_cons]
      refine (run_bind _ _).trans (Run.bind_congr fun result => ?_)
      rw [← ih]
      exact run_bind _ _

end Procedure

/-- Everything but identifiers and lists stands for itself. -/
def Value.isConstant : Value → Bool
  | .identifier _ | .list _ _ => false
  | _ => true

namespace Catalogue

variable {catalogue : Catalogue} {depth : Nat} {scope : ScopeId}

theorem valueOf_eq (catalogue : Catalogue) (depth : Nat) (call : Call) :
    catalogue.valueOf (depth + 1) call = Run.within call.expression
      ((dispatch call.scope call.expression).run (catalogue.answer (catalogue.valueOf depth))) := by
  rw [valueOf_succ, procedure, Procedure.run_inline]

theorem valueOf_constant {value : Value} (constant : value.isConstant = true) :
    catalogue.valueOf (depth + 1) ⟨value, scope⟩ = pure value := by
  cases value <;> first | rfl | cases constant

theorem valueOf_identifier {name : Text} (place : Option Ref) {value : Value} {world : World}
    (bound : world.forest.get? scope name = some value) :
    catalogue.valueOf (depth + 1) ⟨.identifier ⟨name, place⟩, scope⟩ world = (.ok value, world) := by
  rw [valueOf_eq, dispatch, Procedure.run_lift, Run.within, Run.lookUp]
  simp only [Bind.bind, Run.forest, bound]
  rfl

theorem run_evaluate (answer : Call → Run Value) (expression : Value) :
    (Request.evaluate expression scope).run (catalogue.answer answer) = answer ⟨expression, scope⟩ :=
  Procedure.run_ask _

theorem valueOf_constants {values : List Value}
    (constant : ∀ value ∈ values, value.isConstant = true) :
    (values.mapM fun value => catalogue.valueOf (depth + 1) ⟨value, scope⟩) = pure values := by
  induction values with
  | nil => rfl
  | cons value rest ih =>
      obtain ⟨first, others⟩ := List.forall_mem_cons.mp constant
      rw [List.mapM_cons, valueOf_constant first, ih others]
      rfl

/-- A list is evaluated from its head on, and a name in front stands for what it is bound to. -/
theorem run_head {name : Text} (place : Option Ref) {value : Value} {world : World}
    (bound : world.forest.get? scope name = some value) :
    (Request.evaluate (.identifier ⟨name, place⟩) scope).run
      (catalogue.answer (catalogue.valueOf (depth + 1))) world = (.ok value, world) := by
  rw [run_evaluate]
  exact valueOf_identifier place bound

/-- A list with a function in front calls it, with what the operands evaluate to. -/
theorem valueOf_call {head : Value} {operands arguments : List Value} (ref : Option Ref)
    {host : HostFunction} {world middle later : World}
    (heads : catalogue.valueOf depth ⟨head, scope⟩ world = (.ok (.function host), middle))
    (gives : (operands.mapM fun operand => catalogue.valueOf depth ⟨operand, scope⟩) middle =
      (.ok arguments, later)) :
    catalogue.valueOf (depth + 1) ⟨.list (head :: operands) ref, scope⟩ world =
      Run.within (.list (head :: operands) ref) (host.call arguments) later := by
  have front : (Request.evaluate head scope).run
      (catalogue.answer (catalogue.valueOf depth)) world = (.ok (.function host), middle) :=
    (congrFun (run_evaluate _ head) world).trans heads
  have behind : (operands.mapM (Request.evaluate · scope)).run
      (catalogue.answer (catalogue.valueOf depth)) middle = (.ok arguments, later) := by
    simp only [Procedure.run_mapM, run_evaluate]
    exact gives
  have calls : (dispatch scope (.list (head :: operands) ref)).run
      (catalogue.answer (catalogue.valueOf depth)) world = host.call arguments later := by
    rw [dispatch, Procedure.run_then front, Procedure.run_then behind, apply, Procedure.run_lift]
  rw [valueOf_eq, Run.within, calls, Run.within]

/-- A name in front of constants stands for a function, so the function is called. -/
theorem valueOf_application {name : Text} (place ref : Option Ref) {host : HostFunction}
    {arguments : List Value} {world : World}
    (bound : world.forest.get? scope name = some (.function host))
    (constant : ∀ argument ∈ arguments, argument.isConstant = true) :
    catalogue.valueOf (depth + 2) ⟨.list (.identifier ⟨name, place⟩ :: arguments) ref, scope⟩ world =
      Run.within (.list (.identifier ⟨name, place⟩ :: arguments) ref) (host.call arguments) world :=
  valueOf_call ref (valueOf_identifier place bound)
    (congrFun (valueOf_constants constant) world)

/-- A name in front of operands stands for a form, so the form gets them as they are. -/
theorem valueOf_form {name : Text} (place ref : Option Ref) {special : SpecialForm} {operands : List Value}
    {world : World} (bound : world.forest.get? scope name = some (.form special)) :
    catalogue.valueOf (depth + 2) ⟨.list (.identifier ⟨name, place⟩ :: operands) ref, scope⟩ world =
      Run.within (.list (.identifier ⟨name, place⟩ :: operands) ref)
        ((runForm scope ref special.kind operands).run
          (catalogue.answer (catalogue.valueOf (depth + 1)))) world := by
  rw [valueOf_eq]
  refine Run.within_congr ?_
  rw [dispatch, Procedure.run_then (run_head place bound)]

end Catalogue

end Lisplet
