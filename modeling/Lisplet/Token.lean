import Lisplet.Decimal.Layout
import Lisplet.Decimal.Literal
import Lisplet.Integer64
import Lisplet.Issue
import Lisplet.Text.Blank

/-!
Tokens of the language, and the reading of numbers: a whole literal inside the 64-bit range is an
integer, every other decimal literal is a float.
-/

namespace Lisplet

inductive Lexeme
  | endOfInput
  | opening
  | closing
  | identifier (name : Text)
  | integer (value : Int64)
  | float (value : Float)
  | string (value : Text)

def Lexeme.kind : Lexeme → TokenKind
  | endOfInput => .endOfInput
  | opening => .opening
  | closing => .closing
  | identifier _ => .identifier
  | integer _ => .integer
  | float _ => .float
  | string _ => .string

structure Token where
  lexeme : Lexeme
  text : Text
  ref : Option Ref

namespace Token

def kind (token : Token) : TokenKind :=
  token.lexeme.kind

/-- How tightly a token binds to the expressions before it. A closing parenthesis binds, so that a
stray one is met as a part of an expression and not as its end. -/
def power (token : Token) : Nat :=
  match token.kind with
  | .endOfInput => 0
  | .closing => 5
  | .identifier | .integer | .float | .string => 20
  | .opening => 30

def valueText? (token : Token) : Option Text :=
  match token.lexeme with
  | .endOfInput | .opening | .closing => none
  | .identifier name => some name
  | .integer value => some (Text.ofInt value.toInt)
  | .float value => some (Decimal.floatText value)
  | .string value => some value

def valueDebug (token : Token) : Text :=
  match token.lexeme with
  | .identifier text | .string text => text.quoted
  | _ => token.valueText?.getD "None"

def debug (token : Token) : Text :=
  "Token(" ++ token.kind.name ++ ", " ++ token.text.quoted ++ ", " ++ token.valueDebug ++ ", "
    ++ (token.ref.map Ref.render).getD "None" ++ ")"

end Token

inductive Fatal
  | issue (issue : Issue)
  | oversizedNumber (digits : Nat)

namespace NumberToken

/-- A digit at the start, behind an optional sign or point, makes a number of a word. -/
def looksNumeric : Text → Bool
  | [] => false
  | [first] => first.isDigit
  | first :: second :: _ =>
    first.isDigit ||
      ((first = Decimal.plus || first = Decimal.minus || first = Decimal.point) && second.isDigit)

def mostDigits : Nat := 4300

def oversizedMessage (digits : Nat) : Text :=
  "Exceeds the limit (" ++ Text.ofNat mostDigits ++ " digits) for integer string conversion: value has "
    ++ Text.ofNat digits ++ " digits; use sys.set_int_max_str_digits() to increase the limit"

def readFloat (text : Text) (ref : Option Ref) : Except Fatal Token :=
  match Decimal.Literal.read? text with
  | some literal => .ok ⟨.float literal.toFloat, text, ref⟩
  | none => .error (.issue ⟨.malformedNumber text, ref⟩)

def read (text : Text) (ref : Option Ref) : Except Fatal Token :=
  match Decimal.wholeLiteral? text with
  | some (negative, digits) =>
    if mostDigits < digits.length then .error (.oversizedNumber digits.length)
    else
      let value := Decimal.applySign negative (Decimal.digitsValue digits)
      if Integer64.least ≤ value ∧ value ≤ Integer64.greatest then
        .ok ⟨.integer (Int64.ofInt value), text, ref⟩
      else readFloat text ref
  | none => readFloat text ref

end NumberToken

end Lisplet
