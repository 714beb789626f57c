import Lisplet.Decimal.Layout
import Lisplet.Value

/-!
Written forms of values. The printed form of data is source text that reads back as the same data;
the debugging form names the type of every value.
-/

namespace Lisplet

def Text.literal (text : Text) : Text :=
  let escaped := text.flatMap fun point =>
    if point = backslash ∨ point = doubleQuote then [backslash, point] else [point]
  doubleQuote :: escaped ++ [doubleQuote]

def HostFunction.render (host : HostFunction) : Text :=
  "<host-function " ++ host.name ++ ">"

def SpecialForm.render (special : SpecialForm) : Text :=
  "<special-form " ++ special.name ++ ">"

def hostTruth (truth : Bool) : Text :=
  if truth then "True" else "False"

def Text.parenthesized (pieces : List Text) : Text :=
  "(" ++ join " " pieces ++ ")"

def Text.bracketed (pieces : List Text) : Text :=
  "[" ++ join ", " pieces ++ "]"

def Text.tupled : List Text → Text
  | [piece] => "(" ++ piece ++ ",)"
  | pieces => "(" ++ join ", " pieces ++ ")"

mutual

def Value.debug : Value → Text
  | .identifier name => "Identifier(" ++ name.name.quoted ++ ")"
  | .integer number _ => "Integer(" ++ Text.ofInt number.toInt ++ ")"
  | .float number _ => "Float(" ++ Decimal.floatText number ++ ")"
  | .string text _ => "String(" ++ text.quoted ++ ")"
  | .boolean truth _ => "Boolean(" ++ hostTruth truth ++ ")"
  | .list items _ => "List(" ++ Text.bracketed (Value.debugAll items) ++ ")"
  | .nil => "nil"
  | .closure name parameters _ _ _ =>
    "<closure " ++ name ++ "/" ++ Text.ofNat parameters.length ++ ">"
  | .function host => host.render
  | .form special => special.render
  | .foreign object _ => "Opaque(" ++ object.debug ++ ")"

def Value.debugAll : List Value → List Text
  | [] => []
  | value :: rest => value.debug :: Value.debugAll rest

def HostObject.debug : HostObject → Text
  | .nothing => "None"
  | .boolean truth => hostTruth truth
  | .integer number => Text.ofInt number
  | .float number => Decimal.floatText number
  | .text content => content.quoted
  | .list items => Text.bracketed (HostObject.debugAll items)
  | .tuple items => Text.tupled (HostObject.debugAll items)
  | .dictionary entries => "\x7b" ++ Text.join ", " (HostObject.debugEntries entries) ++ "\x7d"
  | .value inner => inner.debug

def HostObject.debugAll : List HostObject → List Text
  | [] => []
  | object :: rest => object.debug :: HostObject.debugAll rest

def HostObject.debugEntries : List (HostObject × HostObject) → List Text
  | [] => []
  | (key, object) :: rest => (key.debug ++ ": " ++ object.debug) :: HostObject.debugEntries rest

end

mutual

def Value.render : Value → Text
  | .identifier name => name.name
  | .integer number _ => Text.ofInt number.toInt
  | .float number _ => Decimal.floatText number
  | .string text _ => text.literal
  | .boolean truth _ => if truth then "true" else "false"
  | .list items _ => Text.parenthesized (Value.renderAll items)
  | .nil => "nil"
  | .closure _ parameters body _ _ =>
    let names := Text.parenthesized (parameters.map Identifier.name)
    Text.parenthesized ("lambda" :: names :: Value.renderAll body)
  | .function host => host.render
  | .form special => special.render
  | .foreign object _ => "<opaque:" ++ object.kind ++ " " ++ object.debug ++ ">"

def Value.renderAll : List Value → List Text
  | [] => []
  | value :: rest => value.render :: Value.renderAll rest

end

def HostObject.render : HostObject → Text
  | .text content => content
  | .value inner => inner.render
  | object => object.debug

end Lisplet
