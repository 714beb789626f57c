import Lisplet.Source

/-!
Kinds of errors, and the issues that reading a source can find. All issues of one pass are reported
together.
-/

namespace Lisplet

inductive ErrorKind
  | missingClosingParenthesis
  | invalidNudToken
  | invalidLedToken
  | invalidNumber
  | unterminatedString
  | invalidRoot
  | unknownVariable
  | arityMismatch
  | typeMismatch
  | panic
deriving DecidableEq

namespace ErrorKind

def name : ErrorKind → Text
  | missingClosingParenthesis => "MissingClosingParenthesis"
  | invalidNudToken => "InvalidNudToken"
  | invalidLedToken => "InvalidLedToken"
  | invalidNumber => "InvalidNumber"
  | unterminatedString => "UnterminatedString"
  | invalidRoot => "InvalidRoot"
  | unknownVariable => "UnknownVariable"
  | arityMismatch => "ArityMismatch"
  | typeMismatch => "TypeMismatch"
  | panic => "Panic"

def locate (kind : ErrorKind) (message : Text) : Option Ref → Text
  | none => kind.name ++ ": " ++ message
  | some ref =>
    kind.name ++ " at line " ++ Text.ofInt (ref.line + 1) ++ ", col " ++ Text.ofInt (ref.column + 1)
      ++ ": " ++ message

end ErrorKind

inductive TokenKind
  | endOfInput
  | opening
  | closing
  | identifier
  | integer
  | float
  | string
deriving DecidableEq

def TokenKind.name : TokenKind → Text
  | endOfInput => "EOF"
  | opening => "Open"
  | closing => "Close"
  | identifier => "Identifier"
  | integer => "Integer"
  | float => "Float"
  | string => "String"

inductive Problem
  | missingClosing (found : Text)
  | unexpectedAtStart (found : Text) (kind : TokenKind)
  | unexpectedInside (found : Text) (kind : TokenKind)
  | malformedNumber (text : Text)
  | unterminatedString
  | noExpression
  | manyExpressions (count : Nat)
  | reported (kind : ErrorKind) (message : Text)

namespace Problem

def kind : Problem → ErrorKind
  | missingClosing _ => .missingClosingParenthesis
  | unexpectedAtStart _ _ => .invalidNudToken
  | unexpectedInside _ _ => .invalidLedToken
  | malformedNumber _ => .invalidNumber
  | unterminatedString => .unterminatedString
  | noExpression | manyExpressions _ => .invalidRoot
  | reported kind _ => kind

def message : Problem → Text
  | missingClosing found => "invalid token - expected ')', got: " ++ found.quoted
  | unexpectedAtStart found kind =>
    "unexpected " ++ found.quoted ++ " (token type " ++ kind.name
      ++ ") at the beginning of an expression"
  | unexpectedInside found kind =>
    "unexpected " ++ found.quoted ++ " (token type " ++ kind.name ++ ") in an expression"
  | malformedNumber text => "invalid number " ++ text.quoted
  | unterminatedString => "string literal is not terminated"
  | noExpression => "no node found"
  | manyExpressions count => "multiple root nodes: obtained " ++ Text.ofNat count ++ " nodes"
  | reported _ message => message

end Problem

structure Issue where
  problem : Problem
  ref : Option Ref

namespace Issue

def kind (issue : Issue) : ErrorKind :=
  issue.problem.kind

def render (issue : Issue) : Text :=
  issue.kind.locate issue.problem.message issue.ref

def context (margin : Text) (issue : Issue) : Text :=
  match issue.ref with
  | none => []
  | some ref => ref.context margin

def entry (issue : Issue) : Text :=
  " " ++ issue.render ++ "\n" ++ issue.context "  "

def report (issues : List Issue) : Text :=
  Text.ofNat issues.length ++ " parsing errors:\n" ++ issues.flatMap entry

end Issue

end Lisplet
