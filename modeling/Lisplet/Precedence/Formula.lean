import Lisplet.Precedence
import Lisplet.Text.Alphanumeric

/-!
Formulas with sums, products, powers, factorials and signs, as a small language for the precedence
parser. Trees are written in brackets, so that a result shows how its operands were grouped.
-/

namespace Lisplet

namespace Formula

open Precedence

def endToken : Text := "<end>"

def power (token : Text) : Nat :=
  if token = "+" ∨ token = "-" then 10
  else if token = "*" then 20
  else if token = "^" then 30
  else if token = "!" then 40
  else 0

def signPower : Nat := 25

/-- Powers group to the right, so the right operand may hold another power. -/
def operandPower (token : Text) : Nat :=
  if token = "^" then 29 else power token

def isOperand (token : Text) : Bool :=
  !token.isEmpty && token.all CodePoint.isAlphanumeric

abbrev FormulaParser := Parser Text Unit Text

def startWith (expression : Int → FormulaParser Text) (token : Text) : FormulaParser Text := do
  if isOperand token then return token
  else if token = "-" then
    let operand ← expression signPower
    return "(neg " ++ operand ++ ")"
  else if token = "(" then
    let inner ← expression 0
    let closing ← peek
    if closing = ")" then discard advance
    else report ("expected ) got " ++ closing)
    return "[" ++ inner ++ "]"
  else
    report ("nud " ++ token)
    return "?"

def continueWith (expression : Int → FormulaParser Text) (token left : Text) :
    FormulaParser Text := do
  if token = "!" then return "(" ++ left ++ " !)"
  else
    let right ← expression (operandPower token)
    return "(" ++ token ++ " " ++ left ++ " " ++ right ++ ")"

def grammar : Grammar Text Unit Text Text := { power, startWith, continueWith }

/-- The tokens of a formula, with end tokens behind them or, if it is finite, with nothing. -/
def stream (finite : Bool) (tokens : List Text) : TokenStream Text Unit :=
  ⟨tokens, if finite then .error () else .ok endToken⟩

end Formula

end Lisplet
