import Lisplet.Host.Registration

/-!
Libraries: named constants and functions, listed in the order in which they are bound. The entries
of a library are bound under names that start with a prefix and a point.
-/

namespace Lisplet

inductive LibraryEntry
  | constant (value : Value)
  | function (registrant : Registrant) (adapters : List Adapter) (unwrap : Bool)

/-- What stands under a name of a library, given the prefix it is bound with. -/
abbrev Library := List (Text × (Text → LibraryEntry))

namespace Library

def constant (name : Text) (value : Value) : Text × (Text → LibraryEntry) :=
  (name, fun _ => .constant value)

def function (name : Text) (operation : Operation) (signature : Option Signature)
    (adapters : List Adapter) : Text × (Text → LibraryEntry) :=
  (name, fun _ => .function (.callable operation signature none) adapters true)

def qualified (start : Text) (library : Library) : List (Text × LibraryEntry) :=
  library.map fun (name, entry) => (start ++ "." ++ name, entry start)

end Library

end Lisplet
