import Lisplet.Fault

/-!
The conditions under which something becomes a host function. It has to be callable, must not
declare several results, and without a signature it needs an adapter that checks the number of its
arguments.
-/

namespace Lisplet

inductive Registrant
  | callable (operation : Operation) (signature : Option Signature) (returns : Option Text)
  | object (object : HostObject)

def Text.without (piece : Text) : Nat → Text → Text
  | _, [] => []
  | skipped + 1, _ :: rest => without piece skipped rest
  | 0, point :: rest =>
    if Text.startsWith piece (point :: rest) then without piece (piece.length - 1) rest
    else point :: without piece 0 rest

def declaresTuple (returns : Text) : Bool :=
  let bare := Text.without "typing." 0 returns
  Text.startsWith "tuple" bare || Text.startsWith "Tuple" bare

def Adapter.checksArity : Adapter → Bool
  | arity _ => true
  | toFloat _ | toInteger _ => false

def Registrant.toFunction (name : Text) (adapters : List Adapter) (unwrap : Bool) :
    Registrant → Except Fault HostFunction
  | object found => .error (.notCallable name found)
  | callable operation (some signature) returns =>
    if returns.any declaresTuple then .error (.declaresSeveralResults name)
    else .ok ⟨name, operation, adapters, unwrap, some signature⟩
  | callable operation none _ =>
    if adapters.any Adapter.checksArity then .ok ⟨name, operation, adapters, unwrap, none⟩
    else .error (.noSignature name)

end Lisplet
