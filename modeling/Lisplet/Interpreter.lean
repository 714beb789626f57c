import Lisplet.Evaluation

/-!
Interpreters. An interpreter keeps its scopes from one program to the next; the root is the scope
that was opened first.
-/

namespace Lisplet

inductive BindingGroup
  | forms
  | basic
  | math

structure Interpreter where
  catalogue : Catalogue
  world : World

namespace Interpreter

def depthLimit : Nat := 10000

def root : ScopeId := 0

def forms : List (Text × FormKind) :=
  [("quote", .quote), ("array", .array), ("if", .if_), ("define", .define), ("let", .define),
    ("var", .define), ("set!", .define), ("def", .def_), ("lambda", .lambda), ("begin", .begin_),
    ("package", .package), ("eval", .eval), ("for", .for_)]

def bindForm (name : Text) (kind : FormKind) : Run Unit :=
  Run.define root name (.form ⟨name, kind⟩)

def bindGroup : BindingGroup → Run Unit
  | .forms => forms.forM fun (name, kind) => bindForm name kind
  | .basic => Run.installAll root Library.basic
  | .math => Run.installAll root (Library.math.qualified "math")

/-- Runs something from the state of an interpreter, and gives what it wrote to the output too. -/
def perform {α : Type} (run : Run α) (interpreter : Interpreter) :
    Except Failure α × Text × Interpreter :=
  let (outcome, world) := run { interpreter.world with output := #[] }
  (outcome, world.output.toList, { interpreter with world })

def prepare (groups : List BindingGroup) : Run Unit := do
  bindForm "import" .import_
  groups.forM bindGroup

def start (groups : List BindingGroup) (catalogue : Catalogue) : Interpreter :=
  let (_, forest) := Forest.empty.openScope none
  let (_, world) := prepare groups ⟨forest, #[]⟩
  ⟨catalogue, world⟩

def read (source : Source) : Run Value :=
  match source.readOne with
  | .ok value => return value
  | .error failure => Run.fail (Failure.ofReading failure)

def evaluateRaw (interpreter : Interpreter) (expression : Value) : Run Value :=
  Lisplet.evaluate interpreter.catalogue depthLimit expression root

def evaluate (interpreter : Interpreter) (expression : Value) : Run Value :=
  Run.bounded (interpreter.evaluateRaw expression)

/-- Evaluates all expressions of a source, which has to be readable as a whole first, and gives the
value of the last one. -/
def evaluateAll (interpreter : Interpreter) (source : Source) : Run Value :=
  match source.readAll with
  | .ok expressions =>
    expressions.foldlM (fun _ expression => interpreter.evaluate expression) .nil
  | .error failure => Run.fail (Failure.ofReading failure)

def writeFile (path : Path) (entry : FileEntry) (interpreter : Interpreter) : Interpreter :=
  let files := interpreter.catalogue.files.write path entry
  { interpreter with catalogue := { interpreter.catalogue with files } }

end Interpreter

end Lisplet
