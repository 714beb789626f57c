import Lisplet.Failure
import Lisplet.Scope

/-!
Runs of programs. A run changes the scopes and writes output, and what it did stays done when it
fails.
-/

namespace Lisplet

structure World where
  forest : Forest
  output : Array CodePoint

def Run (α : Type) : Type :=
  World → Except Failure α × World

instance : Monad Run where
  pure result := fun world => (.ok result, world)
  bind first next := fun world =>
    match first world with
    | (.ok result, later) => next result later
    | (.error failure, later) => (.error failure, later)

namespace Run

def fail {α : Type} (failure : Failure) : Run α :=
  fun world => (.error failure, world)

def failWith {α : Type} (cause : Cause) (ref : Option Ref) : Run α :=
  fail (.ofCause cause ref)

def ofExcept {α : Type} (outcome : Except Failure α) : Run α :=
  fun world => (outcome, world)

/-- Failures of the run go through one more expression. -/
def within {α : Type} (frame : Value) (run : Run α) : Run α := fun world =>
  match run world with
  | (.ok result, later) => (.ok result, later)
  | (.error failure, later) => (.error (failure.through frame), later)

/-- Faults of the run end here and become panics. -/
def bounded {α : Type} (run : Run α) : Run α := fun world =>
  match run world with
  | (.ok result, later) => (.ok result, later)
  | (.error failure, later) => (.error failure.atBoundary, later)

def forest : Run Forest :=
  fun world => (.ok world.forest, world)

def define (scope : ScopeId) (name : Text) (value : Value) : Run Unit :=
  fun world => (.ok (), { world with forest := world.forest.define scope name value })

def openScope (parent : ScopeId) : Run ScopeId := fun world =>
  let (scope, forest) := world.forest.openScope (some parent)
  (.ok scope, { world with forest })

def print (text : Text) : Run Unit :=
  fun world => (.ok (), { world with output := world.output ++ text })

def lookUp (scope : ScopeId) (name : Identifier) : Run Value := do
  match (← forest).get? scope name.name with
  | some value => return value
  | none => failWith (.unboundName name.name) name.ref

end Run

abbrev Evaluator := Value → ScopeId → Run Value

end Lisplet
