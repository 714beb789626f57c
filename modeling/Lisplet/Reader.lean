import Lisplet.Precedence
import Lisplet.Token.Lexer
import Lisplet.Value

/-!
Reading source texts into values. The grammar of parenthesized lists is an instance of precedence
parsing, whose trees are the expressions read so far at the current level. Problems with
parentheses are reported and reading goes on, so that one pass finds them all.
-/

namespace Lisplet

inductive ReadFailure
  | issues (issues : List Issue)
  | oversizedNumber (digits : Nat)

namespace Reader

open Precedence

abbrev ListParser := Parser Token Fatal Issue

def atom? (token : Token) : Option Value :=
  match token.lexeme with
  | .identifier name => some (.identifier ⟨name, token.ref⟩)
  | .integer number => some (.integer number token.ref)
  | .float number => some (.float number token.ref)
  | .string text => some (.string text token.ref)
  | .endOfInput | .opening | .closing => none

/-- The power of a closing parenthesis; an expression inside parentheses stops in front of it. -/
def closingPower : Int := 5

def sublistItems (expression : Int → ListParser (Array Value)) : ListParser (Array Value) := do
  let first ← peek
  if first.kind = .closing then return #[] else expression closingPower

/-- Passes a closing parenthesis. A missing one is reported, and reading goes on as if it was
there. -/
def passClosing : ListParser Unit := do
  let closing ← peek
  if closing.kind = .closing then discard advance
  else report ⟨.missingClosing closing.text, closing.ref⟩

def sublist (expression : Int → ListParser (Array Value)) (opening : Token) : ListParser Value := do
  let items ← sublistItems expression
  passClosing
  return .list items.toList opening.ref

def startWith (expression : Int → ListParser (Array Value)) (token : Token) :
    ListParser (Array Value) := do
  match token.kind with
  | .opening => return #[← sublist expression token]
  | .endOfInput => return #[]
  | .closing =>
    report ⟨.unexpectedAtStart token.text token.kind, token.ref⟩
    return #[]
  | .identifier | .integer | .float | .string => return (atom? token).toArray

def continueWith (expression : Int → ListParser (Array Value)) (token : Token)
    (left : Array Value) : ListParser (Array Value) := do
  match token.kind with
  | .opening => return left.push (← sublist expression token)
  | .closing | .endOfInput =>
    report ⟨.unexpectedInside token.text token.kind, token.ref⟩
    return left
  | .identifier | .integer | .float | .string => return left ++ (atom? token).toArray

def grammar : Grammar Token Fatal Issue (Array Value) :=
  { power := Token.power, startWith, continueWith }

/-- The expressions of a source, or why reading broke off, and the issues found until then. The
parser stays one token ahead, so a failure of the lexer hides what the parser would have said about
the last token before it. -/
structure Reading where
  roots : Except (Stop Fatal) (List Value)
  issues : List Issue

def read (source : Source) : Reading :=
  match State.start ⟨source.tokens, source.ending⟩ with
  | .error failure => ⟨.error (.stream failure), []⟩
  | .ok state =>
    let (roots, last) := parse grammar 0 state
    ⟨roots.map Array.toList, last.issues.toList⟩

def brokenOff (issues : List Issue) : Stop Fatal → ReadFailure
  | .stream (.issue fatal) => .issues (issues ++ [fatal])
  | .stream (.oversizedNumber digits) => .oversizedNumber digits
  | .outOfFuel => .issues issues

end Reader

namespace Source

def readAll (source : Source) : Except ReadFailure (List Value) :=
  let reading := Reader.read source
  match reading.roots with
  | .error stop => .error (Reader.brokenOff reading.issues stop)
  | .ok roots => if reading.issues.isEmpty then .ok roots else .error (.issues reading.issues)

def rootIssue? (source : Source) : List Value → Option Issue
  | [] => some ⟨.noExpression, some (Position.start.toRef source)⟩
  | [_] => none
  | first :: second :: rest =>
    some ⟨.manyExpressions (first :: second :: rest).length, second.ref⟩

def readOne (source : Source) : Except ReadFailure Value :=
  let reading := Reader.read source
  match reading.roots with
  | .error stop => .error (Reader.brokenOff reading.issues stop)
  | .ok roots =>
    let issues := reading.issues ++ (source.rootIssue? roots).toList
    match issues, roots with
    | [], root :: _ => .ok root
    | _, _ => .error (.issues issues)

end Source

end Lisplet
