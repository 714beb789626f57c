import Lisplet.Proofs.Procedures

/-!
Calls of operators, and of the arithmetic ones on integers: what reaches the exact computation, what
comes back, and calls that are nested to the left.
-/

namespace Lisplet

def Builtin.function (operation : Builtin) (name : Text) : HostFunction :=
  ⟨name, .builtin operation, [], true, some [Parameter.variadic "values"]⟩

theorem Builtin.call_function {operation : Builtin}
    (quiet : ∀ arguments, operation.printed arguments = []) (name : Text) (operands : List Value) :
    (operation.function name).call operands =
      Run.ofExcept (operation.run (operands.map Value.toHost) >>=
        (operation.function name).accept) := by
  have adapted : (operation.function name).adapted operands = .ok (operands.map Value.toHost) := by
    change (_ >>= _) = _
    cases operands <;> rfl
  rw [HostFunction.call, adapted]
  funext world
  change (Run.print (operation.printed (operands.map Value.toHost)) >>= fun _ =>
    Run.ofExcept (operation.run (operands.map Value.toHost)) >>= fun result =>
      Run.ofExcept ((operation.function name).accept result)) world = _
  rw [quiet]
  change (Run.ofExcept (operation.run (operands.map Value.toHost)) >>= fun result =>
      Run.ofExcept ((operation.function name).accept result)) world = _
  cases operation.run (operands.map Value.toHost) <;> rfl

namespace Arithmetic

/-- The host function that programs start with under the name of an operator. -/
def function (operator : Arithmetic) : HostFunction :=
  ⟨operator.name, .builtin (.arithmetic operator), [], true, some [Parameter.variadic "values"]⟩

theorem function_registered (operator : Arithmetic) :
    ∃ registrant, (operator.name, .function registrant [] true) ∈ Library.basic ∧
      registrant.toFunction operator.name [] true = .ok operator.function := by
  refine ⟨.callable (.builtin (.arithmetic operator)) (some [Parameter.variadic "values"]) none,
    ?_, rfl⟩
  cases operator <;> simp [Library.basic, Library.operator, Library.builtin, name]

/-- An operand as programs have it: a number, perhaps with its place in a source. -/
def operand (number : Int64 × Option Ref) : Value :=
  .integer number.1 number.2

theorem ofInt_wrap (number : Int) : Int64.ofInt (Integer64.wrap number) = Int64.ofInt number := by
  rw [← Int64.toInt_inj, Integer64.toInt_ofInt, Integer64.toInt_ofInt]
  exact Int.bmod_bmod

theorem read_integers (operator : Text) {minimum : Nat} (first : Int) (rest : List Int)
    (enough : minimum ≤ rest.length + 1) :
    Operands.read operator minimum (.integer first :: rest.map .integer) =
      .ok (.integers first rest) := by
  have numbers : (rest.map HostObject.integer).mapM (Operands.number operator) =
      .ok (rest.map .integer) := by
    rw [List.mapM_map]
    exact List.mapM_pure
  have wholes : (rest.map HostNumber.integer).mapM Operands.whole? = some rest := by
    rw [List.mapM_map]
    exact List.mapM_pure.trans (congrArg some (List.map_id' rest))
  have count : ¬ (HostObject.integer first :: rest.map .integer).length < minimum := by
    simpa using enough
  have promoted : Operands.promote (.integer first) (rest.map .integer) =
      .ok (.integers first rest) := by
    rw [Operands.promote, wholes]
    rfl
  rw [Operands.read, if_neg count]
  change (rest.map HostObject.integer).mapM (Operands.number operator) >>= _ = _
  rw [numbers]
  exact congrArg Failure.orFault promoted

/-- Integers among themselves stay integers. -/
theorem read_operands (operator : Text) {minimum : Nat} {first : Int64 × Option Ref}
    {rest : List (Int64 × Option Ref)} (enough : minimum ≤ rest.length + 1) :
    Operands.read operator minimum (((first :: rest).map operand).map Value.toHost) =
      .ok (.integers first.1.toInt ((rest.map Prod.fst).map Int64.toInt)) := by
  have integers : ((first :: rest).map operand).map Value.toHost =
      .integer first.1.toInt :: ((rest.map Prod.fst).map Int64.toInt).map .integer := by
    simp [Function.comp_def, operand, Value.toHost]
  rw [integers, read_integers operator _ _ (by simpa using enough)]

theorem call_eq (operator : Arithmetic) (operands : List Value) :
    operator.function.call operands =
      Run.ofExcept (operator.run (operands.map Value.toHost) >>= operator.function.accept) :=
  Builtin.call_function (fun _ => rfl) operator.name operands

/-- The call of an operator on integers that it does not turn into floats. -/
theorem call_integers (operator : Arithmetic) (first : Int64 × Option Ref)
    (rest : List (Int64 × Option Ref)) (enough : operator.minimum ≤ rest.length + 1)
    (whole : operator.needsFloats ((rest.map Prod.fst).map Int64.toInt) = false) :
    operator.function.call ((first :: rest).map operand) =
      Run.ofExcept (Failure.orFault
        ((operator.onIntegers first.1.toInt ((rest.map Prod.fst).map Int64.toInt)).map
          fun result => .integer (Int64.ofInt result) none)) := by
  rw [call_eq, run, read_operands operator.name enough]
  change Run.ofExcept (Failure.orFault (operator.compute (.integers _ _)) >>= _) = _
  rw [compute, whole, if_neg Bool.false_ne_true]
  cases operator.onIntegers first.1.toInt ((rest.map Prod.fst).map Int64.toInt) with
  | ok result =>
      change Run.ofExcept (.ok (Value.integer (Int64.ofInt (Integer64.wrap result)) none)) = _
      rw [ofInt_wrap]
      rfl
  | error fault => rfl

/-- Calls nested to the left: the result so far is combined with one operand after the other. -/
def nestedCalls (operator : Arithmetic) (first : Value) (rest : List Value) : Run Value :=
  rest.foldlM (fun result next => operator.function.call [result, next]) first

/-- Nested calls compute step by step, if single calls of the operator do. -/
theorem nestedCalls_eq {operator : Arithmetic} (step : Int64 → Int64 → Int64)
    (allowed : Int64 → Prop)
    (single : ∀ result next : Int64 × Option Ref, allowed next.1 →
      operator.function.call [operand result, operand next] =
        pure (operand (step result.1 next.1, none)))
    (first : Int64 × Option Ref) {rest : List (Int64 × Option Ref)} (several : rest ≠ [])
    (fine : ∀ next ∈ rest.map Prod.fst, allowed next) :
    nestedCalls operator (operand first) (rest.map operand) =
      pure (.integer ((rest.map Prod.fst).foldl step first.1) none) := by
  induction rest generalizing first with
  | nil => exact absurd rfl several
  | cons next rest ih =>
      obtain ⟨head, tail⟩ := List.forall_mem_cons.mp fine
      unfold nestedCalls at ih ⊢
      rw [List.map_cons, List.foldlM_cons, single first next head, pure_bind]
      cases rest with
      | nil => rfl
      | cons other others =>
          exact ih (step first.1 next.1, none) (List.cons_ne_nil other others) tail

end Arithmetic

end Lisplet
