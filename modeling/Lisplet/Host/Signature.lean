import Lisplet.Text.Quoted

/-!
Signatures of host functions, and whether a number of positional arguments fits one.
-/

namespace Lisplet

inductive ParameterKind
  | positional
  | rest
  | keyword
  | keywordRest
deriving DecidableEq

structure Parameter where
  name : Text
  kind : ParameterKind
  hasDefault : Bool
deriving DecidableEq

abbrev Signature := List Parameter

inductive BindingFailure
  | missing (parameter : Text)
  | tooMany
deriving DecidableEq

namespace BindingFailure

def message : BindingFailure → Text
  | missing parameter => "missing a required argument: " ++ parameter.quoted
  | tooMany => "too many positional arguments"

end BindingFailure

namespace Parameter

def isOptional (parameter : Parameter) : Bool :=
  parameter.hasDefault || parameter.kind = .rest || parameter.kind = .keywordRest

def required (name : Text) : Parameter := ⟨name, .positional, false⟩

def optional (name : Text) : Parameter := ⟨name, .positional, true⟩

def variadic (name : Text) : Parameter := ⟨name, .rest, false⟩

end Parameter

namespace Signature

def firstMissing (signature : Signature) : Except BindingFailure Unit :=
  match signature.find? fun parameter => !parameter.isOptional with
  | some parameter => .error (.missing parameter.name)
  | none => .ok ()

def bind : Signature → Nat → Except BindingFailure Unit
  | [], 0 => .ok ()
  | [], _ + 1 => .error .tooMany
  | parameter :: parameters, 0 => firstMissing (parameter :: parameters)
  | parameter :: parameters, count + 1 =>
    match parameter.kind with
    | .positional => bind parameters count
    | .rest => firstMissing parameters
    | .keyword | .keywordRest => .error .tooMany

end Signature

end Lisplet
