import Lisplet.Text.CodePoint

/-!
Blank code points: the ones that separate tokens and are stripped from the ends of settings. They
are the separators of the Unicode character database together with the ASCII control blanks.
-/

namespace Lisplet

namespace CodePoint

def blankRanges : List (Nat × Nat) :=
  [(0x9, 0xD), (0x1C, 0x20), (0x85, 0x85), (0xA0, 0xA0), (0x1680, 0x1680), (0x2000, 0x200A),
   (0x2028, 0x2029), (0x202F, 0x202F), (0x205F, 0x205F), (0x3000, 0x3000)]

def isBlank (point : CodePoint) : Bool :=
  point.isWithin blankRanges

end CodePoint

end Lisplet
