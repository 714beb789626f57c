import Lisplet.Operator.Operands

/-!
The comparison operators. They compare texts with texts and numbers with numbers. Equality compares
every operand with the first one, the others compare neighbours.
-/

namespace Lisplet

class Comparable (α : Type) where
  equal : α → α → Bool
  less : α → α → Bool
  lessEqual : α → α → Bool

instance : Comparable Int := ⟨(· == ·), (· < ·), (· ≤ ·)⟩

instance : Comparable Float := ⟨(· == ·), (· < ·), (· ≤ ·)⟩

instance : Comparable Text := ⟨(· == ·), (· < ·), (· ≤ ·)⟩

inductive Comparands
  | texts (first : Text) (rest : List Text)
  | numbers (operands : Operands)

namespace Comparison

def name : Comparison → Text
  | equal | notEqual => "=="
  | less => "<"
  | lessEqual => "<="
  | greater => ">"
  | greaterEqual => ">="

def chained {α : Type} (related : α → α → Bool) : α → List α → Bool
  | _, [] => true
  | left, right :: rest => related left right && chained related right rest

def decides {α : Type} [Comparable α] (first : α) (rest : List α) : Comparison → Bool
  | equal => rest.all (Comparable.equal · first)
  | notEqual => !rest.all (Comparable.equal · first)
  | less => chained Comparable.less first rest
  | lessEqual => chained Comparable.lessEqual first rest
  | greater => chained (fun left right => Comparable.less right left) first rest
  | greaterEqual => chained (fun left right => Comparable.lessEqual right left) first rest

end Comparison

namespace Comparands

def text? : HostObject → Option Text
  | .text content => some content
  | _ => none

def read (operator : Text) (arguments : List HostObject) : Except Failure Comparands :=
  if arguments.length < 2 then .error (.ofCause (.fewComparands operator) none)
  else
    match arguments.mapM text? with
    | some (first :: rest) => .ok (.texts first rest)
    | _ => (Operands.read operator 1 arguments).map .numbers

def decides (comparison : Comparison) : Comparands → Bool
  | texts first rest => comparison.decides first rest
  | numbers (.integers first rest) => comparison.decides first rest
  | numbers (.floats first rest) => comparison.decides first rest

end Comparands

def Comparison.run (comparison : Comparison) (arguments : List HostObject) :
    Except Failure HostObject := do
  let comparands ← Comparands.read comparison.name arguments
  return .boolean (comparands.decides comparison)

end Lisplet
