import Lisplet.Text.Utf8

/-!
Source texts and references into them. A source keeps the code points that are valid in programs;
its lines are found through the offsets at which they start.
-/

namespace Lisplet

structure Source where
  name : Text
  text : Text

namespace Source

def newline : CodePoint := CodePoint.ofChar '\n'

/-- Surrogates and the replacement character have no place in programs. -/
def isKept (point : CodePoint) : Bool :=
  point ≠ CodePoint.replacement && !point.isSurrogate

def defaultName : Text := "<input>"

def ofText (name text : Text) : Source :=
  ⟨name, text.filter isKept⟩

def ofBytes (name : Text) (bytes : List UInt8) : Source :=
  ofText name (Utf8.decodeDropping bytes)

def lineStartsFrom (offset : Nat) : Text → List Nat
  | [] => []
  | point :: rest =>
    if point = newline then (offset + 1) :: lineStartsFrom (offset + 1) rest
    else lineStartsFrom (offset + 1) rest

def lineStarts (source : Source) : List Nat :=
  0 :: lineStartsFrom 0 source.text

structure OutOfBound where
  line : Int
  lineCount : Nat

def OutOfBound.message (failure : OutOfBound) : Text :=
  "out of bound line " ++ Text.ofInt failure.line ++ " (source has "
    ++ Text.ofNat failure.lineCount ++ " lines)"

def behindLines? : Nat → Text → Option Text
  | 0, text => some text
  | _ + 1, [] => none
  | count + 1, point :: rest =>
    if point = newline then behindLines? count rest else behindLines? (count + 1) rest

def firstLine : Text → Text
  | [] => []
  | point :: rest => if point = newline then [point] else point :: firstLine rest

def line (source : Source) (index : Int) : Except OutOfBound Text :=
  let found : Option Text :=
    match index with
    | .ofNat number => (behindLines? number source.text).map firstLine
    | .negSucc _ => none
  match found with
  | some text => .ok text
  | none => .error ⟨index, source.lineStarts.length⟩

def debug (source : Source) : Text :=
  "Source(" ++ source.name.quoted ++ ", " ++ Text.ofNat source.text.length ++ " chars, "
    ++ Text.ofNat source.lineStarts.length ++ " lines)"

end Source

/-- A place in a source, by line and column from zero. -/
structure Ref where
  source : Option Source
  line : Int
  column : Int

namespace Ref

def unknownName : Text := "<unknown>"

def context (margin : Text) (ref : Ref) : Text :=
  match ref.source with
  | none => margin ++ "no source info\n"
  | some source =>
    match source.line ref.line with
    | .error failure => margin ++ "unable to get source info: " ++ failure.message ++ "\n"
    | .ok line =>
      let shown := margin ++ line.filter (· ≠ Source.newline) ++ "\n"
      if 0 ≤ ref.column ∧ ref.column ≤ line.length then
        shown ++ margin ++ List.replicate ref.column.toNat (CodePoint.ofChar '-') ++ "^\n"
      else shown

def render (ref : Ref) : Text :=
  (ref.source.map Source.name).getD unknownName ++ ":" ++ Text.ofInt (ref.line + 1) ++ ":"
    ++ Text.ofInt (ref.column + 1)

end Ref

/-- How far a reader has come in a source, by line and column from zero. -/
structure Position where
  line : Nat
  column : Nat
deriving DecidableEq

namespace Position

def start : Position := ⟨0, 0⟩

def next (position : Position) (point : CodePoint) : Position :=
  if point = Source.newline then ⟨position.line + 1, 0⟩
  else ⟨position.line, position.column + 1⟩

def advance (position : Position) (text : Text) : Position :=
  text.foldl next position

def toRef (source : Source) (position : Position) : Ref :=
  ⟨some source, position.line, position.column⟩

end Position

end Lisplet
