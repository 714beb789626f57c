import Lisplet.Catalogue
import Lisplet.Evaluation.Procedure

/-!
Imports. A library is bound in the root under a prefix; a file is evaluated in the root.
-/

namespace Lisplet

namespace Run

def register (scope : ScopeId) (name : Text) (registrant : Registrant) (adapters : List Adapter)
    (unwrap : Bool) : Run HostFunction := do
  let host ← ofExcept (Failure.orFault (registrant.toFunction name adapters unwrap))
  define scope name (.function host)
  return host

def install (scope : ScopeId) (name : Text) : LibraryEntry → Run Unit
  | .constant value => define scope name value
  | .function registrant adapters unwrap => discard (register scope name registrant adapters unwrap)

def installAll (scope : ScopeId) (entries : List (Text × LibraryEntry)) : Run Unit :=
  entries.forM fun (name, entry) => install scope name entry

end Run

def importFile (path : Path) (content : List UInt8) (root : ScopeId) : Procedure Call Value := do
  let source ← Run.ofExcept (Failure.orFault (Catalogue.sourceOf path content))
  match source.readAll with
  | .ok forms => sequence Call.evaluate forms root
  | .error failure => Run.fail (Failure.ofReading failure)

namespace Catalogue

/-- Imports a library or a file. Without a prefix, or with an empty one, the entries of a library
get its name in front. -/
def load (catalogue : Catalogue) (scope : ScopeId) (name start : Text) : Procedure Call Value := do
  if !isFlat name then Run.failWith (.invalidLibraryName name) none
  else
    let root := (← Run.forest).root scope
    match catalogue.library? name with
    | some library => do
      Run.installAll root (library.qualified (if start.isEmpty then name else start))
      return .nil
    | none =>
      match ← Run.ofExcept (Failure.orFault (catalogue.resolve name)) with
      | some (path, content) => importFile path content root
      | none => Run.failWith (.libraryNotFound name catalogue.searchPath) none

end Catalogue

def Procedure.inline {α : Type} (catalogue : Catalogue) : Procedure Request α → Procedure Call α
  | done result => done result
  | act run next => act run fun result => (next result).inline catalogue
  | ask (.call call) next => ask call fun answer => (next answer).inline catalogue
  | ask (.load scope name start) next =>
    (catalogue.load scope name start).bind fun answer => (next answer).inline catalogue

end Lisplet
