import Lisplet.Format
import Lisplet.Library
import Lisplet.Operator.Arithmetic
import Lisplet.Operator.Comparison

/-!
The functions and constants that every program can use: the operators, and helpers for lists, texts
and output.
-/

namespace Lisplet

namespace Builtin

def run : Builtin → List HostObject → Except Failure HostObject
  | arithmetic operator, arguments => operator.run arguments
  | comparison operator, arguments => operator.run arguments
  | not, [.boolean truth] => .ok (.boolean !truth)
  | not, [argument] => .error (.ofCause (.truthExpected argument.typeName) none)
  | length, [.list items] => .ok (.integer items.length)
  | length, [.text content] => .ok (.integer content.length)
  | length, [argument] => .error (.ofCause (.noLength argument.typeName) none)
  | format, .text content :: arguments =>
    Failure.orFault ((Format.run content arguments).map .text)
  | format, argument :: _ => .error (.ofCause (.formatExpected argument.typeName) none)
  | panic, [payload] => .error (.ofFault (.panic payload))
  | print, _ => .ok .nothing
  | typeName, [argument] => .ok (.text argument.typeName)
  | _, _ => .error (.ofFault .unfitArguments)

def display : HostObject → Text
  | .value (.string text _) => text
  | object => object.render

def printed : Builtin → List HostObject → Text
  | print, arguments => Text.join " " (arguments.map display) ++ "\n"
  | _, _ => []

end Builtin

namespace Library

def builtin (name : Text) (operation : Builtin) (signature : Signature) (unwrap : Bool) :
    Text × LibraryEntry :=
  (name, .function (.callable (.builtin operation) (some signature) none) [] unwrap)

def operator (name : Text) (operation : Builtin) : Text × LibraryEntry :=
  builtin name operation [Parameter.variadic "values"] true

def basic : List (Text × LibraryEntry) :=
  [operator "+" (.arithmetic .add),
    operator "-" (.arithmetic .subtract),
    operator "*" (.arithmetic .multiply),
    operator "/" (.arithmetic .divide),
    operator "**" (.arithmetic .power),
    operator "==" (.comparison .equal),
    operator "eq?" (.comparison .equal),
    operator "!=" (.comparison .notEqual),
    operator "<" (.comparison .less),
    operator "<=" (.comparison .lessEqual),
    operator ">" (.comparison .greater),
    operator ">=" (.comparison .greaterEqual),
    builtin "not" .not [Parameter.required "value"] true,
    builtin "len" .length [Parameter.required "value"] true,
    builtin "sprintf" .format [Parameter.required "fmt", Parameter.variadic "args"] true,
    builtin "panic" .panic [Parameter.required "payload"] true,
    builtin "print" .print [Parameter.variadic "values"] false,
    builtin "type" .typeName [Parameter.required "value"] false,
    ("true", .constant (.boolean true none)),
    ("false", .constant (.boolean false none)),
    ("nil", .constant .nil)]

end Library

end Lisplet
