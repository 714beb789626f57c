import Lisplet.Failure
import Lisplet.Library
import Lisplet.Value.Equality

/-!
Host functions that show what a host can hand over and how its functions can fail, and two small
libraries made of them.
-/

namespace Lisplet

namespace Sample

def runDouble : HostObject → Except Fault HostObject
  | .boolean truth => .ok (.integer (truthNumber truth * 2))
  | .integer number => .ok (.integer (number * 2))
  | .float number => .ok (.float (number * 2.0))
  | .text content => .ok (.text (content ++ content))
  | .list items => .ok (.list (items ++ items))
  | .tuple items => .ok (.tuple (items ++ items))
  | object =>
    .error (.raised "TypeError"
      ("unsupported operand type(s) for *: '" ++ object.kind ++ "' and 'int'"))

def notSubscriptable (object : HostObject) : Fault :=
  .raised "TypeError" ("'" ++ object.kind ++ "' object is not subscriptable")

def entryOf (entries : List (HostObject × HostObject)) (key : HostObject) :
    Except Fault HostObject :=
  match HostObject.lookUp? entries key with
  | some object => .ok object
  | none => .error (.keyMissing key)

def textAsPlace (sequence : Text) : Fault :=
  .raised "TypeError" (sequence ++ " indices must be integers or slices, not str")

def runLookUp : HostObject → Except Fault HostObject
  | .dictionary entries => entryOf entries (.text "a")
  | .list _ => .error (textAsPlace "list")
  | .tuple _ | .value (.list _ _) => .error (textAsPlace "tuple")
  | .text _ => .error (.raised "TypeError" "string indices must be integers, not 'str'")
  | object => .error (notSubscriptable object)

def firstOf (sequence : Text) : List HostObject → Except Fault HostObject
  | head :: _ => .ok head
  | [] => .error (.indexOutOfRange sequence)

def runFirst : HostObject → Except Fault HostObject
  | .list items => firstOf "list" items
  | .tuple items => firstOf "tuple" items
  | .value (.list items _) => firstOf "tuple" (items.map .value)
  | .text content => firstOf "string" (content.map fun point => .text [point])
  | .dictionary entries => entryOf entries (.integer 0)
  | object => .error (notSubscriptable object)

def runLength : HostObject → Except Fault HostObject
  | .list items | .tuple items => .ok (.integer items.length)
  | .value (.list items _) => .ok (.integer items.length)
  | .text content => .ok (.integer content.length)
  | .dictionary entries => .ok (.integer entries.length)
  | object => .error (.raised "TypeError" ("object of type '" ++ object.kind ++ "' has no len()"))

def pieces : List HostObject → Except Fault (List Text)
  | [] => .ok []
  | .text content :: rest => do return content :: (← pieces rest)
  | object :: _ =>
    .error (.raised "TypeError"
      ("'<=' not supported between instances of 'str' and '" ++ object.kind ++ "'"))

def programPieces : HostObject → Except Fault (List Text)
  | .text content => .ok (content.map fun point => [point])
  | .list items | .tuple items => pieces items
  | .value (.list items _) => pieces (items.map .value)
  | .dictionary entries => pieces (entries.map Prod.fst)
  | object => .error (.raised "TypeError" ("'" ++ object.kind ++ "' object is not iterable"))

def firstSurrogate : CodePoint := ⟨0xD800, by decide⟩

def lastSurrogate : CodePoint := ⟨0xDFFF, by decide⟩

def isKept (piece : Text) : Bool :=
  piece ≠ [CodePoint.replacement] && !([firstSurrogate] ≤ piece && piece ≤ [lastSurrogate])

def runRead (argument : HostObject) : Except Failure HostObject := do
  let pieces ← Failure.orFault (programPieces argument)
  match Source.readOne ⟨Source.defaultName, (pieces.filter isKept).flatten⟩ with
  | .ok value => .ok (.value value)
  | .error failure => .error (Failure.ofReading failure)

def raises : Sample → Option Failure
  | raiseValueError => some (.ofFault (.raised "ValueError" "bad input"))
  | raiseKeyError => some (.ofFault (.keyMissing (.text "missing")))
  | raiseTypeError => some (.ofFault (.raised "TypeError" "inner"))
  | raiseUnknownVariable => some (.ofCause (.reported .unknownVariable "from host") none)
  | raiseLocated => some (.ofCause (.reported .typeMismatch "located") (some ⟨none, 4, 2⟩))
  | raisePanic => some (.ofFault (.panic (.dictionary [(.text "code", .integer 3)])))
  | raiseSyntaxIssue => some (.issue ⟨.reported .invalidNumber "host syntax", none⟩)
  | _ => none

def nestedObject : HostObject :=
  .list [.integer 1, .list [.float 2.5, .nothing, .boolean true, .text "s"], .list []]

def result? : Sample → List HostObject → Option HostObject
  | identity, [argument] => some argument
  | pair, [left, right] => some (.list [left, right])
  | pairWithDefault, [left] => some (.list [left, .integer 7])
  | pairWithDefault, [left, right] => some (.list [left, right])
  | firstAndRest, head :: rest => some (.list [head, .list rest])
  | withKeyword, [argument] => some (.list [argument, .integer 3])
  | count, arguments => some (.integer arguments.length)
  | nothing, [] => some .nothing
  | oversized, [] => some (.integer 0x10000000000000005)
  | nested, [] => some nestedObject
  | dictionary, [] => some (.dictionary [(.text "a", .integer 1)])
  | twoResults, [] => some (.tuple [.integer 1, .integer 2])
  | noResults, [] => some (.tuple [])
  | kindName, [argument] => some (.text argument.kind)
  | debugForm, [argument] => some (.text argument.debug)
  | oneElement, [] => some (.list [.integer 1])
  | _, _ => none

def run (sample : Sample) (arguments : List HostObject) : Except Failure HostObject :=
  match sample.raises with
  | some failure => .error failure
  | none =>
    match sample, arguments with
    | double, [argument] => Failure.orFault (runDouble argument)
    | lookUp, [argument] => Failure.orFault (runLookUp argument)
    | first, [argument] => Failure.orFault (runFirst argument)
    | length, [argument] => Failure.orFault (runLength argument)
    | read, [argument] => runRead argument
    | _, _ =>
      match sample.result? arguments with
      | some object => .ok object
      | none => .error (.ofFault .unfitArguments)

def keyword (name : Text) (hasDefault : Bool) : Parameter :=
  ⟨name, .keyword, hasDefault⟩

def signature : Sample → Signature
  | identity | kindName | debugForm => [Parameter.required "v"]
  | pair => [Parameter.required "a", Parameter.required "b"]
  | pairWithDefault => [Parameter.required "a", Parameter.optional "b"]
  | firstAndRest => [Parameter.required "a", Parameter.variadic "more"]
  | keywordOnly => [keyword "k" false]
  | withKeyword => [Parameter.required "a", keyword "k" true]
  | count => [Parameter.variadic "args"]
  | double => [Parameter.required "n"]
  | lookUp => [Parameter.required "d"]
  | raiseTypeError => [Parameter.variadic "a"]
  | first => [Parameter.required "lst"]
  | read => [Parameter.required "s"]
  | length => [Parameter.required "obj"]
  | nothing | oversized | nested | dictionary | twoResults | noResults | oneElement
  | raiseValueError | raiseKeyError | raiseUnknownVariable | raiseLocated | raisePanic
  | raiseSyntaxIssue => []

def registrant (returns : Option Text) (sample : Sample) : Registrant :=
  .callable (.sample sample) (some sample.signature) returns

end Sample

namespace Library

def text : Library :=
  [function "len" (.sample .length) (some Sample.length.signature) [.arity 1],
    function "id" (.sample .identity) (some Sample.identity.signature) [],
    ("name", fun start => .constant (.string start none))]

def failing : Library :=
  [constant "before" (.integer 1 none),
    ("pair", fun _ => .function (Sample.twoResults.registrant (some "tuple")) [] true)]

end Library

end Lisplet
