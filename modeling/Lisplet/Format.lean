import Lisplet.Decimal.Places
import Lisplet.Host.Number

/-!
Formats with directives that start with a percent sign. A format is read code point by code point;
a directive has flags, a width, a precision and a conversion, in this order, and takes its arguments
from left to right.
-/

namespace Lisplet

namespace Format

inductive Conversion
  | display
  | debug
  | ascii
  | decimal
  | octal
  | hexadecimal (upper : Bool)
  | real (form : Decimal.Form) (upper : Bool)
  | character

def conversions : List (Char × Conversion) :=
  [('s', .display), ('r', .debug), ('a', .ascii), ('d', .decimal), ('i', .decimal),
    ('u', .decimal), ('o', .octal), ('x', .hexadecimal false), ('X', .hexadecimal true),
    ('e', .real .scientific false), ('E', .real .scientific true), ('f', .real .fixed false),
    ('F', .real .fixed true), ('g', .real .general false), ('G', .real .general true),
    ('c', .character)]

def Conversion.ofLetter? (letter : CodePoint) : Option Conversion :=
  (conversions.find? fun entry => CodePoint.ofChar entry.1 = letter).map Prod.snd

structure Directive where
  leftJustify : Bool
  plus : Bool
  blank : Bool
  alternate : Bool
  zeroFill : Bool
  width : Nat
  precision : Option Nat

def Directive.start : Directive :=
  ⟨false, false, false, false, false, 0, none⟩

structure Field where
  sign : Text
  base : Text
  body : Pieces
  isNumber : Bool

def plain (body : Text) : Field :=
  ⟨[], [], [.text body], false⟩

def fill (mark : Char) (count : Nat) : Piece :=
  .run (CodePoint.ofChar mark) count

def Directive.justify (directive : Directive) (field : Field) : Pieces :=
  let front := field.sign ++ field.base
  let missing := directive.width - (front.length + field.body.length)
  if directive.leftJustify then .text front :: field.body ++ [fill ' ' missing]
  else if directive.zeroFill && field.isNumber then .text front :: fill '0' missing :: field.body
  else fill ' ' missing :: .text front :: field.body

/-! ### Conversions -/

def Directive.sign (directive : Directive) (negative : Bool) : Text :=
  if negative then "-" else if directive.plus then "+" else if directive.blank then " " else ""

def Directive.cut (directive : Directive) (text : Text) : Field :=
  plain (match directive.precision with
    | some length => text.take length
    | none => text)

def mostDigits : Nat := 2147483644

def Directive.integer (directive : Directive) (base : Text) (digits : Nat → Text) (number : Int) :
    Except Fault Field :=
  let precision := directive.precision.getD 0
  if mostDigits < precision then .error (.format .precisionTooLarge)
  else
    let written := digits number.natAbs
    .ok ⟨directive.sign (decide (number < 0)), if directive.alternate then base else [],
      [fill '0' (precision - written.length), .text written], true⟩

def digitsOfBase (base : Nat) (upper : Bool) (number : Nat) : Text :=
  (Nat.toDigits base number).map fun digit =>
    CodePoint.ofChar (if upper then digit.toUpper else digit)

def integerArgument (letter : CodePoint) : HostObject → Except Fault Int
  | .integer number => .ok number
  | .boolean truth => .ok (truthNumber truth)
  | object => .error (.format (.integerRequired letter object.kind))

def wholeArgument (letter : CodePoint) : HostObject → Except Fault Int
  | .integer number => .ok number
  | .boolean truth => .ok (truthNumber truth)
  | .float number => Binary64.toIntChecked number
  | object => .error (.format (.numberRequired letter object.kind))

def defaultPrecision : Nat := 6

def greatestPrecision : Nat := 2147483647

/-- The precision of a float. The greatest one leaves no room for counting the digit in front of the
point, and scientific forms have that digit only then. -/
def Directive.realPrecision (directive : Directive) (form : Decimal.Form) : Nat :=
  let precision := directive.precision.getD defaultPrecision
  if form = .scientific ∧ precision = greatestPrecision then 0 else precision

def Directive.real (directive : Directive) (form : Decimal.Form) (upper : Bool) (number : Float) :
    Field :=
  match Binary64.ofFloat number with
  | .nan => ⟨directive.sign false, [], [.text (if upper then "NAN" else "nan")], true⟩
  | .infinite negative =>
    ⟨directive.sign negative, [], [.text (if upper then "INF" else "inf")], true⟩
  | .finite negative mantissa exponent =>
    let (numerator, denominator) := Binary64.ratio mantissa exponent
    ⟨directive.sign negative, [],
      form.write ⟨upper, directive.alternate⟩ (directive.realPrecision form) numerator denominator,
      true⟩

def numberedCharacter (number : Int) : Except Fault Text :=
  match CodePoint.ofNat? number.toNat with
  | some point =>
    if number < 0 then .error (.format .characterOutOfRange) else .ok [point]
  | none => .error (.format .characterOutOfRange)

def characterArgument : HostObject → Except Fault Text
  | .text [point] => .ok [point]
  | .boolean truth => numberedCharacter (truthNumber truth)
  | .integer number => numberedCharacter number
  | _ => .error (.format .characterRequired)

def Directive.convert (directive : Directive) (letter : CodePoint) (argument : HostObject) :
    Conversion → Except Fault Field
  | .display => .ok (directive.cut argument.render)
  | .debug => .ok (directive.cut argument.debug)
  | .ascii => .ok (directive.cut argument.debug.escapeNonAscii)
  | .decimal => do directive.integer [] Text.ofNat (← wholeArgument letter argument)
  | .octal => do
    directive.integer "0o" (digitsOfBase 8 false) (← integerArgument letter argument)
  | .hexadecimal upper => do
    directive.integer (if upper then "0X" else "0x") (digitsOfBase 16 upper)
      (← integerArgument letter argument)
  | .real form upper => do return directive.real form upper (← argument.toReal)
  | .character => do return plain (← characterArgument argument)

/-! ### Reading -/

inductive Phase
  | opened
  | flags
  | widthDigits
  | behindWidth
  | precision
  | precisionDigits
  | behindPrecision
  | conversion

structure Progress where
  index : Nat
  pending : List HostObject
  written : Array Piece
  directive? : Option (Directive × Phase)

namespace Progress

def start (arguments : List HostObject) : Progress :=
  ⟨0, arguments, #[], none⟩

def within (progress : Progress) (directive : Directive) (phase : Phase) :
    Except Fault Progress :=
  .ok { progress with directive? := some (directive, phase) }

def argument (progress : Progress) : Except Fault (HostObject × Progress) :=
  match progress.pending with
  | [] => .error (.format .missingArgument)
  | first :: rest => .ok (first, { progress with pending := rest })

def is (point : CodePoint) (character : Char) : Bool :=
  point = CodePoint.ofChar character

def greatestField : Nat := 1000000000000

def atConversion (progress : Progress) (directive : Directive) (letter : CodePoint) :
    Except Fault Progress := do
  let (argument, progress) ← progress.argument
  match Conversion.ofLetter? letter with
  | none => .error (.format (.unknownConversion letter progress.index))
  | some conversion =>
    let field ← directive.convert letter argument conversion
    if greatestField < directive.width then .error (.format .outOfMemory)
    else
      return { progress with
        written := progress.written ++ directive.justify field, directive? := none }

def atModifier (progress : Progress) (directive : Directive) (point : CodePoint) :
    Except Fault Progress :=
  if is point 'h' || is point 'l' || is point 'L' then progress.within directive .conversion
  else progress.atConversion directive point

def leastPrecision : Int := -2147483648

def sizeArgument (progress : Progress) : Except Fault (Int × Progress) := do
  let (argument, progress) ← progress.argument
  match argument with
  | .integer number => return (number, progress)
  | .boolean truth => return (truthNumber truth, progress)
  | _ => .error (.format .sizeNotInteger)

def extend (limit : Nat) (tooBig : FormatFault) (number : Nat) (digit : CodePoint) :
    Except Fault Nat :=
  if (limit - digit.digitValue) / 10 < number then .error (.format tooBig)
  else .ok (number * 10 + digit.digitValue)

def atPrecision (progress : Progress) (directive : Directive) (point : CodePoint) :
    Except Fault Progress := do
  if is point '*' then
    let (size, progress) ← progress.sizeArgument
    if size < leastPrecision ∨ greatestPrecision < size then .error (.format .precisionOutOfRange)
    else progress.within { directive with precision := some size.toNat } .behindPrecision
  else if point.isDigit then
    progress.within { directive with precision := some point.digitValue } .precisionDigits
  else progress.atModifier directive point

def atPrecisionDigits (progress : Progress) (directive : Directive) (point : CodePoint) :
    Except Fault Progress := do
  if point.isDigit then
    let precision ←
      extend greatestPrecision .precisionTooBig (directive.precision.getD 0) point
    progress.within { directive with precision := some precision } .precisionDigits
  else progress.atModifier directive point

def behindWidth (progress : Progress) (directive : Directive) (point : CodePoint) :
    Except Fault Progress :=
  if is point '.' then progress.within { directive with precision := some 0 } .precision
  else progress.atModifier directive point

def greatestWidth : Nat := 9223372036854775807

/-- A negative width means a field that starts at the left. The least one of all has no opposite and
counts as none. -/
def Directive.withWidth (directive : Directive) (size : Int) : Directive :=
  if size < 0 then
    { directive with
      leftJustify := true, width := if size < -greatestWidth then 0 else size.natAbs }
  else { directive with width := size.toNat }

def atWidth (progress : Progress) (directive : Directive) (point : CodePoint) :
    Except Fault Progress := do
  if is point '*' then
    let (size, progress) ← progress.sizeArgument
    progress.within (Directive.withWidth directive size) .behindWidth
  else if point.isDigit then
    progress.within { directive with width := point.digitValue } .widthDigits
  else progress.behindWidth directive point

def atWidthDigits (progress : Progress) (directive : Directive) (point : CodePoint) :
    Except Fault Progress := do
  if point.isDigit then
    let width ← extend greatestWidth .widthTooBig directive.width point
    progress.within { directive with width } .widthDigits
  else progress.behindWidth directive point

def atFlags (progress : Progress) (directive : Directive) (point : CodePoint) :
    Except Fault Progress :=
  if is point '-' then progress.within { directive with leftJustify := true } .flags
  else if is point '+' then progress.within { directive with plus := true } .flags
  else if is point ' ' then progress.within { directive with blank := true } .flags
  else if is point '#' then progress.within { directive with alternate := true } .flags
  else if is point '0' then progress.within { directive with zeroFill := true } .flags
  else progress.atWidth directive point

def atOpened (progress : Progress) (directive : Directive) (point : CodePoint) :
    Except Fault Progress :=
  if is point '%' then
    .ok { progress with written := progress.written.push (.text [point]), directive? := none }
  else if is point '(' then .error (.format .mappingRequired)
  else progress.atFlags directive point

def read (progress : Progress) (point : CodePoint) : Except Fault Progress :=
  match progress.directive? with
  | none =>
    if is point '%' then progress.within Directive.start .opened
    else .ok { progress with written := progress.written.push (.text [point]) }
  | some (directive, phase) =>
    match phase with
    | .opened => progress.atOpened directive point
    | .flags => progress.atFlags directive point
    | .widthDigits => progress.atWidthDigits directive point
    | .behindWidth => progress.behindWidth directive point
    | .precision => progress.atPrecision directive point
    | .precisionDigits => progress.atPrecisionDigits directive point
    | .behindPrecision => progress.atModifier directive point
    | .conversion => progress.atConversion directive point

def step (progress : Progress) (point : CodePoint) : Except Fault Progress := do
  let progress ← progress.read point
  return { progress with index := progress.index + 1 }

def greatestLength : Nat := 1000000000

def finish (progress : Progress) : Except Fault Text :=
  let written : Pieces := progress.written.toList
  if progress.directive?.isSome then .error (.format .incomplete)
  else if !progress.pending.isEmpty then .error (.format .leftoverArgument)
  else if greatestLength < written.length then .error (.format .outOfMemory)
  else .ok written.toText

end Progress

def run (format : Text) (arguments : List HostObject) : Except Fault Text := do
  let progress ← format.foldlM Progress.step (Progress.start arguments)
  progress.finish

end Format

end Lisplet
