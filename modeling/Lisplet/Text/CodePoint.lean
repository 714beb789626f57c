/-!
Text as a list of code points. A lone surrogate is a code point like any other, so every text that
a program can build has a value here, and lengths and columns count code points.
-/

namespace Lisplet

/-- A number of the Unicode code space, surrogates included. -/
structure CodePoint where
  val : Nat
  inSpace : val < 0x110000
deriving DecidableEq

namespace CodePoint

def ofChar (character : Char) : CodePoint :=
  ⟨character.toNat, by
    have valid := character.valid
    simp only [Char.toNat, UInt32.isValidChar, Nat.isValidChar] at valid ⊢
    omega⟩

def ofNat? (number : Nat) : Option CodePoint :=
  if inSpace : number < 0x110000 then some ⟨number, inSpace⟩ else none

instance : LT CodePoint := ⟨fun left right => left.val < right.val⟩

instance : DecidableLT CodePoint := fun left right => Nat.decLt left.val right.val

instance : Inhabited CodePoint := ⟨⟨0, by decide⟩⟩

def isSurrogate (point : CodePoint) : Bool :=
  0xD800 ≤ point.val && point.val ≤ 0xDFFF

def replacement : CodePoint := ⟨0xFFFD, by decide⟩

def isWithin (ranges : List (Nat × Nat)) (point : CodePoint) : Bool :=
  ranges.any fun (first, last) => first ≤ point.val && point.val ≤ last

def isDigit (point : CodePoint) : Bool :=
  0x30 ≤ point.val && point.val ≤ 0x39

def digitValue (point : CodePoint) : Nat :=
  point.val - 0x30

end CodePoint

abbrev Text := List CodePoint

namespace Text

def ofString (text : String) : Text :=
  text.toList.map CodePoint.ofChar

instance : Coe String Text := ⟨ofString⟩

def join (separator : Text) : List Text → Text
  | [] => []
  | [text] => text
  | text :: next :: rest => text ++ separator ++ join separator (next :: rest)

def splitOn (mark : CodePoint) : Text → List Text
  | [] => [[]]
  | point :: rest =>
    match splitOn mark rest with
    | [] => [[point]]
    | piece :: pieces =>
      if point = mark then [] :: piece :: pieces else (point :: piece) :: pieces

def startsWith (opening text : Text) : Bool :=
  opening.isPrefixOf text

def strip (dropped : CodePoint → Bool) (text : Text) : Text :=
  ((text.dropWhile dropped).reverse.dropWhile dropped).reverse

def ofNat (number : Nat) : Text :=
  (Nat.toDigits 10 number).map CodePoint.ofChar

def ofInt : Int → Text
  | .ofNat number => ofNat number
  | .negSucc number => ofString "-" ++ ofNat (number + 1)

end Text

end Lisplet
