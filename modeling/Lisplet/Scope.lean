import Lisplet.Value

/-!
Scopes: bindings of names to values, each scope inside an older one. Names are looked up from a
scope outwards, so a chain of scopes ends after finitely many steps.
-/

namespace Lisplet

abbrev Bindings := List (Text × Value)

namespace Bindings

def get? (name : Text) (bindings : Bindings) : Option Value :=
  (bindings.find? fun binding => binding.1 = name).map Prod.snd

/-- Binds a name. A name that is bound already keeps its place. -/
def set (name : Text) (value : Value) : Bindings → Bindings
  | [] => [(name, value)]
  | (other, present) :: rest =>
    if other = name then (other, value) :: rest else (other, present) :: set name value rest

end Bindings

structure Scope where
  parent : Option ScopeId
  bindings : Bindings

structure Forest where
  scopes : Array Scope

namespace Forest

def empty : Forest := ⟨#[]⟩

def openScope (parent : Option ScopeId) (forest : Forest) : ScopeId × Forest :=
  (forest.scopes.size, ⟨forest.scopes.push ⟨parent, []⟩⟩)

def bindings (forest : Forest) (scope : ScopeId) : Bindings :=
  (forest.scopes[scope]?.map Scope.bindings).getD []

/-- The scope around a scope. It is older. -/
def parent? (forest : Forest) (scope : ScopeId) : Option { parent : ScopeId // parent < scope } :=
  match forest.scopes[scope]?.bind Scope.parent with
  | none => none
  | some parent => if older : parent < scope then some ⟨parent, older⟩ else none

def ancestors (forest : Forest) (scope : ScopeId) : List ScopeId :=
  match forest.parent? scope with
  | none => []
  | some ⟨parent, _⟩ => parent :: ancestors forest parent
termination_by scope

def chain (forest : Forest) (scope : ScopeId) : List ScopeId :=
  scope :: forest.ancestors scope

def root (forest : Forest) (scope : ScopeId) : ScopeId :=
  (forest.ancestors scope).getLastD scope

def binds (forest : Forest) (name : Text) (scope : ScopeId) : Bool :=
  ((forest.bindings scope).get? name).isSome

def find? (forest : Forest) (scope : ScopeId) (name : Text) : Option ScopeId :=
  (forest.chain scope).find? (forest.binds name)

def contains (forest : Forest) (scope : ScopeId) (name : Text) : Bool :=
  (forest.find? scope name).isSome

def get? (forest : Forest) (scope : ScopeId) (name : Text) : Option Value :=
  (forest.find? scope name).bind fun owner => (forest.bindings owner).get? name

def define (scope : ScopeId) (name : Text) (value : Value) (forest : Forest) : Forest :=
  ⟨forest.scopes.modify scope fun present =>
    { present with bindings := present.bindings.set name value }⟩

end Forest

end Lisplet
