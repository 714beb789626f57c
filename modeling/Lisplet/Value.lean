import Lisplet.Host.Operation
import Lisplet.Host.Signature
import Lisplet.Issue

/-!
Values of the language, which are code and data alike, and the objects of the host that they wrap
or are handed over as. Every value that stems from a source keeps a reference to its place there.
-/

namespace Lisplet

/-- What happens to the arguments of a host function before a call. A negative place counts from
the end. -/
inductive Adapter
  | arity (count : Int)
  | toFloat (place : Int)
  | toInteger (place : Int)
deriving DecidableEq

structure HostFunction where
  name : Text
  operation : Operation
  adapters : List Adapter
  /-- Are arguments handed over as host objects? Otherwise the function sees the values. -/
  unwrap : Bool
  signature : Option Signature
deriving DecidableEq

inductive FormKind
  | quote
  | array
  | if_
  | define
  | def_
  | lambda
  | begin_
  | package
  | eval
  | for_
  | import_
deriving DecidableEq

structure SpecialForm where
  name : Text
  kind : FormKind
deriving DecidableEq

structure Identifier where
  name : Text
  ref : Option Ref

/-- Scopes are numbered in the order of their creation. -/
abbrev ScopeId := Nat

mutual

inductive Value
  | identifier (name : Identifier)
  | integer (number : Int64) (ref : Option Ref)
  | float (number : Float) (ref : Option Ref)
  | string (text : Text) (ref : Option Ref)
  | boolean (truth : Bool) (ref : Option Ref)
  | list (items : List Value) (ref : Option Ref)
  | nil
  | closure (name : Text) (parameters : List Identifier) (body : List Value) (scope : ScopeId)
      (ref : Option Ref)
  | function (host : HostFunction)
  | form (special : SpecialForm)
  | foreign (object : HostObject) (ref : Option Ref)

inductive HostObject
  | nothing
  | boolean (truth : Bool)
  | integer (number : Int)
  | float (number : Float)
  | text (content : Text)
  | list (items : List HostObject)
  | tuple (items : List HostObject)
  | dictionary (entries : List (HostObject × HostObject))
  | value (inner : Value)

end

instance : Inhabited Value := ⟨.nil⟩

instance : Inhabited HostObject := ⟨.nothing⟩

namespace Value

def ref : Value → Option Ref
  | identifier name => name.ref
  | integer _ ref | float _ ref | string _ ref | boolean _ ref | list _ ref | foreign _ ref => ref
  | closure _ _ _ _ ref => ref
  | nil | function _ | form _ => none

def withRef (ref : Option Ref) : Value → Value
  | identifier name => identifier { name with ref }
  | integer number _ => integer number ref
  | float number _ => float number ref
  | string text _ => string text ref
  | boolean truth _ => boolean truth ref
  | list items _ => list items ref
  | closure name parameters body scope _ => closure name parameters body scope ref
  | foreign object _ => foreign object ref
  | nil => nil
  | function host => function host
  | form special => form special

def hostKind : Value → Text
  | identifier _ => "Identifier"
  | integer _ _ => "Integer"
  | float _ _ => "Float"
  | string _ _ => "String"
  | boolean _ _ => "Boolean"
  | list _ _ => "List"
  | nil => "NilType"
  | closure _ _ _ _ _ => "Closure"
  | function _ => "HostFunction"
  | form _ => "SpecialForm"
  | foreign _ _ => "Opaque"

def isTruthy : Value → Bool
  | nil => false
  | list items _ => !items.isEmpty
  | _ => true

end Value

def HostObject.kind : HostObject → Text
  | nothing => "NoneType"
  | boolean _ => "bool"
  | integer _ => "int"
  | float _ => "float"
  | text _ => "str"
  | list _ => "list"
  | tuple _ => "tuple"
  | dictionary _ => "dict"
  | value inner => inner.hostKind

namespace Value

def typeName : Value → Text
  | identifier _ => "identifier"
  | integer _ _ => "int64"
  | float _ _ => "float64"
  | string _ _ => "string"
  | boolean _ _ => "bool"
  | list _ _ => "list"
  | nil => "nil"
  | closure _ _ _ _ _ => "closure"
  | function _ => "host-function"
  | form _ => "special-form"
  | foreign object _ => "opaque:" ++ object.kind

end Value

/-! ### Crossing between the language and the host -/

mutual

/-- The host's view of a value. Identifiers, callables and nothing else are seen as they are. -/
def Value.toHost : Value → HostObject
  | .integer number _ => .integer number.toInt
  | .float number _ => .float number
  | .string text _ => .text text
  | .boolean truth _ => .boolean truth
  | .list items _ => .list (Value.allToHost items)
  | .nil => .nothing
  | .foreign object _ => object
  | .identifier name => .value (.identifier name)
  | .closure name parameters body scope ref => .value (.closure name parameters body scope ref)
  | .function host => .value (.function host)
  | .form special => .value (.form special)

def Value.allToHost : List Value → List HostObject
  | [] => []
  | value :: rest => value.toHost :: Value.allToHost rest

end

mutual

/-- The value of a host object. Integers wrap; what has no counterpart stays foreign. -/
def Value.ofHost : HostObject → Value
  | .nothing => .nil
  | .boolean truth => .boolean truth none
  | .integer number => .integer (Int64.ofInt number) none
  | .float number => .float number none
  | .text text => .string text none
  | .list items => .list (Value.allOfHost items) none
  | .value inner => inner
  | .tuple items => .foreign (.tuple items) none
  | .dictionary entries => .foreign (.dictionary entries) none

def Value.allOfHost : List HostObject → List Value
  | [] => []
  | object :: rest => Value.ofHost object :: Value.allOfHost rest

end

def HostObject.typeName (object : HostObject) : Text :=
  (Value.ofHost object).typeName

end Lisplet
