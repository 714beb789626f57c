import Lisplet.Decimal.Binary64
import Lisplet.Value

/-!
Equality of values compares types and contents and ignores references. Numbers of the host compare
by what they stand for; a NaN differs from every number.
-/

namespace Lisplet

def Binary64.isInteger (number : Float) (integer : Int) : Bool :=
  match Binary64.ofFloat number with
  | .finite negative mantissa exponent =>
    let (numerator, denominator) := Binary64.ratio mantissa exponent
    numerator % denominator = 0 && Binary64.truncate negative mantissa exponent = integer
  | _ => false

def truthNumber (truth : Bool) : Int :=
  if truth then 1 else 0

mutual

def Value.equals : Value → Value → Bool
  | .identifier left, .identifier right => left.name = right.name
  | .integer left _, .integer right _ => left = right
  | .float left _, .float right _ => left == right
  | .string left _, .string right _ => left = right
  | .boolean left _, .boolean right _ => left = right
  | .list left _, .list right _ => Value.allEqual left right
  | .nil, .nil => true
  | .closure leftName leftParameters leftBody leftScope _,
      .closure rightName rightParameters rightBody rightScope _ =>
    leftName = rightName && leftScope = rightScope
      && leftParameters.map Identifier.name = rightParameters.map Identifier.name
      && Value.allEqual leftBody rightBody
  | .function left, .function right => left = right
  | .form left, .form right => left = right
  | .foreign left _, .foreign right _ => left.equals right
  | _, _ => false

def Value.allEqual : List Value → List Value → Bool
  | [], [] => true
  | left :: lefts, right :: rights => left.equals right && Value.allEqual lefts rights
  | _, _ => false

def HostObject.equals : HostObject → HostObject → Bool
  | .nothing, .nothing => true
  | .boolean left, .boolean right => left = right
  | .boolean left, .integer right => truthNumber left = right
  | .boolean left, .float right => Binary64.isInteger right (truthNumber left)
  | .integer left, .boolean right => left = truthNumber right
  | .integer left, .integer right => left = right
  | .integer left, .float right => Binary64.isInteger right left
  | .float left, .boolean right => Binary64.isInteger left (truthNumber right)
  | .float left, .integer right => Binary64.isInteger left right
  | .float left, .float right => left == right
  | .text left, .text right => left = right
  | .list left, .list right => HostObject.allEqual left right
  | .tuple left, .tuple right => HostObject.allEqual left right
  | .dictionary left, .dictionary right =>
    left.length = right.length && HostObject.allEntriesIn left right
  | .value left, .value right => left.equals right
  | _, _ => false

def HostObject.allEqual : List HostObject → List HostObject → Bool
  | [], [] => true
  | left :: lefts, right :: rights => left.equals right && HostObject.allEqual lefts rights
  | _, _ => false

def HostObject.allEntriesIn :
    List (HostObject × HostObject) → List (HostObject × HostObject) → Bool
  | [], _ => true
  | (key, object) :: lefts, rights =>
    (match rights.find? fun entry => key.equals entry.1 with
      | some entry => object.equals entry.2
      | none => false)
      && HostObject.allEntriesIn lefts rights

end

mutual

/-- Is a value equal to itself? A NaN is not, but a list of NaNs is, since it has the very same
items. -/
def Value.equalsItself : Value → Bool
  | .float number _ => number == number
  | .foreign object _ => object.equalsItself
  | _ => true

def HostObject.equalsItself : HostObject → Bool
  | .float number => number == number
  | .value inner => inner.equalsItself
  | _ => true

end

namespace HostObject

def lookUp? (entries : List (HostObject × HostObject)) (key : HostObject) : Option HostObject :=
  (entries.find? fun entry => entry.1.equals key).map Prod.snd

/-- Adds an entry to a dictionary; a key that is there already keeps its place. -/
def insertEntry (key object : HostObject) :
    List (HostObject × HostObject) → List (HostObject × HostObject)
  | [] => [(key, object)]
  | (other, present) :: rest =>
    if other.equals key then (other, object) :: rest
    else (other, present) :: insertEntry key object rest

def dictionaryOf (entries : List (HostObject × HostObject)) : HostObject :=
  .dictionary (entries.foldl (fun done (key, object) => insertEntry key object done) [])

end HostObject

end Lisplet
