import Lisplet.Evaluation.Application

/-!
The forms of the language. They get their operands unevaluated, with the scope they stand in and the
place of the whole form.
-/

namespace Lisplet

def FormKind.boundName (form : FormKind) : Value → Run Identifier
  | .identifier name => return name
  | other => Run.failWith (.nameExpected form other.typeName) other.ref

def parameter : Value → Run Identifier
  | .identifier name => return name
  | other => Run.failWith (.parameterExpected other.typeName) other.ref

def parameters : Value → Run (List Identifier)
  | .list items _ => items.mapM parameter
  | other => Run.failWith (.parametersExpected other.typeName) other.ref

def packageBody : List Value → List Value
  | .string _ _ :: forms => forms
  | forms => forms

theorem packageBody_subset (forms : List Value) : packageBody forms ⊆ forms := by
  unfold packageBody
  split
  · exact List.subset_cons_self _ _
  · exact List.Subset.refl forms

def condition (scope : ScopeId) (operand : Value) : Procedure Request Bool := do
  match ← Request.evaluate operand scope with
  | .boolean truth _ => return truth
  | other => Run.failWith (.conditionExpected other.typeName) operand.ref

def items (scope : ScopeId) (operand : Value) : Procedure Request (List Value) := do
  match ← Request.evaluate operand scope with
  | .list items _ => return items
  | other => Run.failWith (.sequenceExpected other.typeName) operand.ref

def importText (scope : ScopeId) (operand : Value) : Procedure Request Text := do
  match ← Request.evaluate operand scope with
  | .string text _ => return text
  | other => Run.failWith (.libraryNameExpected other.typeName) operand.ref

def evaluateTwice (scope : ScopeId) (operands : List Value) : Procedure Request Value := do
  let codes ← operands.mapM (Request.evaluate · scope)
  sequence Request.evaluate codes scope

def runForm (scope : ScopeId) (ref : Option Ref) :
    FormKind → List Value → Procedure Request Value
  | .quote, [operand] => return operand
  | .array, [operand] => return operand
  | .if_, [test, consequence] => do
    if ← condition scope test then Request.evaluate consequence scope else return .nil
  | .if_, [test, consequence, alternative] => do
    if ← condition scope test then Request.evaluate consequence scope
    else Request.evaluate alternative scope
  | .define, [target, operand] => do
    let name ← FormKind.boundName .define target
    let value ← Request.evaluate operand scope
    Run.define scope name.name value
    return value
  | .def_, target :: list :: body => do
    let name ← FormKind.boundName .def_ target
    let closure := Value.closure name.name (← parameters list) body scope ref
    Run.define scope name.name closure
    return closure
  | .lambda, list :: body => do
    return .closure "lambda" (← parameters list) body scope ref
  | .begin_, forms => sequence Request.evaluate forms scope
  | .package, forms => sequence Request.evaluate (packageBody forms) scope
  | .eval, operands => evaluateTwice scope operands
  | .for_, [function, list] => do
    let callee ← Request.evaluate function scope
    let items ← items scope list
    items.forM fun item => do discard (apply callee [item])
    return .nil
  | .import_, [operand] => do
    .ask (.load scope (← importText scope operand) []) .done
  | .import_, [operand, start] => do
    let name ← importText scope operand
    .ask (.load scope name (← importText scope start)) .done
  | form, operands => Run.failWith (.operandCount form operands.length) none

end Lisplet
