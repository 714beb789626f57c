import Lisplet.Path
import Lisplet.Text.Utf8
import Lisplet.Token
import Lisplet.Value.Printer

/-!
Faults of the host: what host functions raise, beyond the errors that the language knows. Every
fault has a kind and a message.
-/

namespace Lisplet

inductive FormatFault
  | incomplete
  | unknownConversion (conversion : CodePoint) (index : Nat)
  | mappingRequired
  | missingArgument
  | leftoverArgument
  | widthTooBig
  | precisionTooBig
  | sizeNotInteger
  | precisionOutOfRange
  | precisionTooLarge
  | outOfMemory
  | numberRequired (conversion : CodePoint) (found : Text)
  | integerRequired (conversion : CodePoint) (found : Text)
  | characterRequired
  | characterOutOfRange

inductive Fault
  | panic (payload : HostObject)
  | integerDivisionByZero
  | floatDivisionByZero
  | zeroToNegativePower
  | powerOutOfRange
  | complexPowerOutOfRange
  | infinityToInteger
  | nanToInteger
  | integerTooLargeForFloat
  | mathDomain
  | mathRange
  | realRequired (found : Text)
  | badAbsolute (found : Text)
  | format (fault : FormatFault)
  | declaresSeveralResults (function : Text)
  | returnedSeveralResults (function : Text) (count : Nat)
  | noSignature (function : Text)
  | notCallable (function : Text) (found : HostObject)
  | oversizedNumber (digits : Nat)
  | undecodable (malformed : Utf8.Malformed)
  | nameTooLong (path : Path)
  | indexOutOfRange (sequence : Text)
  | oversizedIndex
  | keyMissing (key : HostObject)
  | raised (kind message : Text)
  /-- An operation got a number of arguments that no call lets through. -/
  | unfitArguments
  | depthExceeded

namespace FormatFault

def kind : FormatFault → Text
  | incomplete | unknownConversion _ _ | widthTooBig | precisionTooBig => "ValueError"
  | precisionOutOfRange | precisionTooLarge | characterOutOfRange => "OverflowError"
  | outOfMemory => "MemoryError"
  | mappingRequired | missingArgument | leftoverArgument | sizeNotInteger | numberRequired _ _
  | integerRequired _ _ | characterRequired => "TypeError"

def shownConversion (conversion : CodePoint) : Text :=
  if 31 ≤ conversion.val ∧ conversion.val ≤ 126 then [conversion] else "?"

def message : FormatFault → Text
  | incomplete => "incomplete format"
  | unknownConversion conversion index =>
    "unsupported format character '" ++ shownConversion conversion ++ "' (0x"
      ++ (Nat.toDigits 16 conversion.val).map CodePoint.ofChar ++ ") at index " ++ Text.ofNat index
  | mappingRequired => "format requires a mapping"
  | missingArgument => "not enough arguments for format string"
  | leftoverArgument => "not all arguments converted during string formatting"
  | widthTooBig => "width too big"
  | precisionTooBig => "precision too big"
  | sizeNotInteger => "* wants int"
  | precisionOutOfRange => "Python int too large to convert to C int"
  | precisionTooLarge => "precision too large"
  | outOfMemory => ""
  | numberRequired conversion found =>
    "%" ++ [conversion] ++ " format: a real number is required, not " ++ found
  | integerRequired conversion found =>
    "%" ++ [conversion] ++ " format: an integer is required, not " ++ found
  | characterRequired => "%c requires int or char"
  | characterOutOfRange => "%c arg not in range(0x110000)"

end FormatFault

namespace Fault

def kind : Fault → Text
  | panic _ => "HostPanic"
  | integerDivisionByZero | floatDivisionByZero | zeroToNegativePower => "ZeroDivisionError"
  | powerOutOfRange | complexPowerOutOfRange | infinityToInteger | integerTooLargeForFloat
  | mathRange => "OverflowError"
  | nanToInteger | mathDomain | oversizedNumber _ => "ValueError"
  | realRequired _ | badAbsolute _ | notCallable _ _ | unfitArguments => "TypeError"
  | format fault => fault.kind
  | declaresSeveralResults _ | returnedSeveralResults _ _ | noSignature _ =>
    "UnsupportedHostFunction"
  | undecodable _ => "UnicodeDecodeError"
  | nameTooLong _ => "OSError"
  | indexOutOfRange _ | oversizedIndex => "IndexError"
  | keyMissing _ => "KeyError"
  | raised kind _ => kind
  | depthExceeded => "RecursionError"

def message : Fault → Text
  | panic payload => payload.render
  | integerDivisionByZero => "integer division or modulo by zero"
  | floatDivisionByZero => "float division by zero"
  | zeroToNegativePower => "0.0 cannot be raised to a negative power"
  | powerOutOfRange => "(34, 'Numerical result out of range')"
  | complexPowerOutOfRange => "complex exponentiation"
  | infinityToInteger => "cannot convert float infinity to integer"
  | nanToInteger => "cannot convert float NaN to integer"
  | integerTooLargeForFloat => "int too large to convert to float"
  | mathDomain => "math domain error"
  | mathRange => "math range error"
  | realRequired found => "must be real number, not " ++ found
  | badAbsolute found => "bad operand type for abs(): '" ++ found ++ "'"
  | format fault => fault.message
  | declaresSeveralResults function =>
    "host function " ++ function.quoted ++ " returns multiple values"
  | returnedSeveralResults function count =>
    "host function " ++ function.quoted ++ " returned " ++ Text.ofNat count ++ " values"
  | noSignature function =>
    "host function " ++ function.quoted
      ++ " has no inspectable signature and needs a check_arity adapter"
  | notCallable function found =>
    "host function " ++ function.quoted ++ " is not callable: " ++ found.debug
  | oversizedNumber digits => NumberToken.oversizedMessage digits
  | undecodable malformed => malformed.message
  | nameTooLong path => "[Errno 36] File name too long: " ++ path.render.quoted
  | indexOutOfRange sequence => sequence ++ " index out of range"
  | oversizedIndex => "cannot fit 'int' into an index-sized integer"
  | keyMissing key => key.debug
  | raised _ message => message
  | unfitArguments => "arguments do not fit"
  | depthExceeded => "maximum recursion depth exceeded"

def report : Fault → Text
  | panic payload => "panic: " ++ payload.debug
  | fault => fault.kind ++ ": " ++ fault.message

end Fault

end Lisplet
