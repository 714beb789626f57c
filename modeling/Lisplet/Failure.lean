import Lisplet.Fault
import Lisplet.Reader

/-!
Failures of evaluations. Errors of the language and faults of the host collect the expressions that
were being evaluated, the innermost first; issues of reading pass as they are. At the boundary of an
evaluation a fault becomes a panic.
-/

namespace Lisplet

inductive Cause
  | unboundName (name : Text)
  | libraryNotFound (name : Text) (searchPath : List Path)
  | closureArguments (name : Text) (expected actual : Nat)
  | operandCount (form : FormKind) (actual : Nat)
  | fewOperands (operator : Text) (minimum : Nat)
  | fewComparands (operator : Text)
  | argumentCount (expected : Int) (actual : Nat)
  | argumentMissing (place : Int) (actual : Nat)
  | binding (function : Text) (failure : BindingFailure)
  | nameExpected (form : FormKind) (found : Text)
  | parametersExpected (found : Text)
  | parameterExpected (found : Text)
  | conditionExpected (found : Text)
  | sequenceExpected (found : Text)
  | libraryNameExpected (found : Text)
  | invalidLibraryName (name : Text)
  | notCallable (head : Value)
  | formApplied (form : Text)
  | operandType (operator found : Text)
  | argumentNotNumber (place : Int) (found : Text)
  | truthExpected (found : Text)
  | noLength (found : Text)
  | formatExpected (found : Text)
  | reported (kind : ErrorKind) (message : Text)

namespace Cause

def kind : Cause → ErrorKind
  | unboundName _ | libraryNotFound _ _ => .unknownVariable
  | closureArguments _ _ _ | operandCount _ _ | fewOperands _ _ | fewComparands _
  | argumentCount _ _ | argumentMissing _ _ | binding _ _ => .arityMismatch
  | nameExpected _ _ | parametersExpected _ | parameterExpected _ | conditionExpected _
  | sequenceExpected _ | libraryNameExpected _ | invalidLibraryName _ | notCallable _
  | formApplied _ | operandType _ _ | argumentNotNumber _ _ | truthExpected _ | noLength _
  | formatExpected _ => .typeMismatch
  | reported kind _ => kind

def operandCountMessage (actual : Nat) : FormKind → Text
  | .quote => "quote expects exactly one argument, got " ++ Text.ofNat actual
  | .array => "array expects exactly one argument, got " ++ Text.ofNat actual
  | .if_ => "if expects 2 or 3 arguments, got " ++ Text.ofNat actual
  | .define => "define requires exactly 2 arguments, got " ++ Text.ofNat actual
  | .def_ => "def requires a name and a parameter list"
  | .lambda => "lambda requires at least a parameter list"
  | .for_ => "for requires exactly 2 arguments, got " ++ Text.ofNat actual
  | .import_ => "import expects 1 or 2 arguments, got " ++ Text.ofNat actual
  | .begin_ | .package | .eval => Text.ofNat actual

def binderName : FormKind → Text
  | .def_ => "def"
  | _ => "define"

def message : Cause → Text
  | unboundName name => name.quoted ++ " does not exist"
  | libraryNotFound name searchPath =>
    "cannot find library " ++ name.quoted ++ " (search path: "
      ++ Text.bracketed (searchPath.map Path.debug) ++ ")"
  | closureArguments name expected actual =>
    name ++ " expects " ++ Text.ofNat expected ++ " argument(s), got " ++ Text.ofNat actual
  | operandCount form actual => operandCountMessage actual form
  | fewOperands operator minimum =>
    "function " ++ operator.quoted ++ " should take at least " ++ Text.ofNat minimum
      ++ " argument(s)"
  | fewComparands operator =>
    "function " ++ operator.quoted ++ " should take at least 2 arguments"
  | argumentCount expected actual =>
    "wrong number of parameters: expected " ++ Text.ofInt expected ++ ", got " ++ Text.ofNat actual
  | argumentMissing place actual =>
    "wrong number of parameters: expected at least " ++ Text.ofInt (place + 1) ++ ", got "
      ++ Text.ofNat actual
  | binding function failure => function ++ ": " ++ failure.message
  | nameExpected form found => binderName form ++ " expects an identifier, got " ++ found
  | parametersExpected found => "parameter list must be a list, got " ++ found
  | parameterExpected found => "parameter must be an identifier, got " ++ found
  | conditionExpected found => "if condition must be a bool, got " ++ found
  | sequenceExpected found => "for expects a list, got " ++ found
  | libraryNameExpected found => "import expects strings, got " ++ found
  | invalidLibraryName name =>
    "invalid library name " ++ name.quoted ++ ": names are flat, without '.' or '/'"
  | notCallable head => "cannot call " ++ head.typeName ++ " value " ++ head.render
  | formApplied form => "special form " ++ form ++ " cannot be applied to evaluated arguments"
  | operandType operator found =>
    "unable to apply " ++ operator.quoted ++ " to values of type " ++ found
  | argumentNotNumber place found =>
    "parameter " ++ Text.ofInt place ++ " must be a number, got " ++ found
  | truthExpected found => "not expects a bool, got " ++ found
  | noLength found => "len expects a list or a string, got " ++ found
  | formatExpected found => "sprintf format must be a string, got " ++ found
  | reported _ message => message

end Cause

/-- An error of the language, with its place and the expressions it went through, the outermost
first. -/
structure RuntimeError where
  cause : Cause
  ref : Option Ref
  passed : List Value

namespace RuntimeError

def kind (error : RuntimeError) : ErrorKind :=
  error.cause.kind

def stack (error : RuntimeError) : List Value :=
  error.passed.reverse

def render (error : RuntimeError) : Text :=
  error.kind.locate error.cause.message error.ref

end RuntimeError

def describeFrame (heading : Text) (frame : Value) : Text :=
  heading ++
    match frame.ref with
    | some ref => ref.context "    "
    | none => "    " ++ frame.render ++ "\n"

def describeStack : List Value → Text
  | [] => []
  | innermost :: callers =>
    describeFrame "  # triggered at:\n" innermost
      ++ callers.flatMap (describeFrame "  # called from:\n")

def describe (failure : Text) (stack : List Value) : Text :=
  "runtime error: " ++ failure ++ "\n" ++ describeStack stack

def RuntimeError.describe (error : RuntimeError) : Text :=
  Lisplet.describe error.render error.stack

/-- How an evaluation fails. A fault carries the expressions it went through, the outermost first;
behind the boundary of its evaluation it is a panic, with the innermost first. -/
inductive Failure
  | error (error : RuntimeError)
  | unreadable (issues : List Issue)
  | issue (issue : Issue)
  | fault (fault : Fault) (passed : List Value)
  | panic (fault : Fault) (stack : List Value)

namespace Failure

def ofCause (cause : Cause) (ref : Option Ref) : Failure :=
  .error ⟨cause, ref, []⟩

def ofFault (fault : Fault) : Failure :=
  .fault fault []

/-- A source that cannot be read is reported whole; a number beyond conversion is a fault. -/
def ofReading : ReadFailure → Failure
  | .issues issues => .unreadable issues
  | .oversizedNumber digits => .ofFault (.oversizedNumber digits)

def orFault {α : Type} : Except Fault α → Except Failure α
  | .ok result => .ok result
  | .error raised => .error (.ofFault raised)

def through (frame : Value) : Failure → Failure
  | .error inner => .error { inner with passed := frame :: inner.passed }
  | .fault cause passed => .fault cause (frame :: passed)
  | failure => failure

def atBoundary : Failure → Failure
  | .fault cause passed => .panic cause passed.reverse
  | failure => failure

end Failure

def Fault.panicLine (fault : Fault) : Text :=
  ErrorKind.panic.locate fault.report none

def Fault.describe (fault : Fault) (stack : List Value) : Text :=
  Lisplet.describe fault.panicLine stack ++ "  # interpreter trace:\n"

end Lisplet
