import Lisplet.Decimal.Literal
import Lisplet.Path
import Lisplet.Text.Blank
import Lisplet.Text.DecimalDigit

/-!
Settings from variables of the environment: the directories that imports search, and a limit for the
depth of recursion. A variable that is empty counts as one that is not set.
-/

namespace Lisplet

namespace Settings

def given (setting : Option Text) : Option Text :=
  setting.filter fun text => !text.isEmpty

def separator : CodePoint := CodePoint.ofChar ':'

def directories (text : Text) : List Path :=
  let pieces := (Text.splitOn separator text).map (Text.strip CodePoint.isBlank)
  (pieces.filter fun piece => !piece.isEmpty).map Path.ofText

def searchPath (setting : Option Text) (workingDirectory : Path) : List Path :=
  match given setting with
  | none => [workingDirectory.append (Path.ofText "lib")]
  | some text => directories text

def isPadding (point : CodePoint) : Bool :=
  point.isBlank && !(0x1C ≤ point.val && point.val ≤ 0x1F)

def underscore : CodePoint := CodePoint.ofChar '_'

def mostDigits : Nat := 4300

def readDigits? (text : Text) : Option Nat :=
  let groups := Text.splitOn underscore text
  if groups.any List.isEmpty then none
  else
    match groups.flatten.mapM CodePoint.decimalValue? with
    | none => none
    | some digits =>
      if mostDigits < digits.length then none
      else some (digits.foldl (fun value digit => value * 10 + digit) 0)

def readInteger? (text : Text) : Option Int :=
  let (negative, digits) := Decimal.splitSign (Text.strip isPadding text)
  (readDigits? digits).map (Decimal.applySign negative)

structure NotAnInteger where
  text : Text

def NotAnInteger.message (failure : NotAnInteger) : Text :=
  "RUM_RECURSION_LIMIT must be an integer, got " ++ failure.text.quoted

def recursionLimit (setting : Option Text) : Except NotAnInteger (Option Int) :=
  match given setting with
  | none => .ok none
  | some text =>
    match readInteger? text with
    | some limit => .ok (some limit)
    | none => .error ⟨text⟩

end Settings

end Lisplet
