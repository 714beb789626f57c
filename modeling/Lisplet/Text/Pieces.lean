import Lisplet.Text.CodePoint

/-!
Texts in pieces. A run of equal code points is one piece however long it is, so the length of a text
is known before the text is written out.
-/

namespace Lisplet

inductive Piece
  | text (content : Text)
  | run (point : CodePoint) (count : Nat)

namespace Piece

def length : Piece → Nat
  | text content => content.length
  | run _ count => count

def before (rest : Text) : Piece → Text
  | text content => content ++ rest
  | run point count => count.repeat (List.cons point) rest

theorem length_repeat (point : CodePoint) (count : Nat) (rest : Text) :
    (count.repeat (List.cons point) rest).length = count + rest.length := by
  induction count with
  | zero => simp [Nat.repeat]
  | succ count ih =>
    simp only [Nat.repeat, List.length_cons, ih]
    omega

theorem length_before (piece : Piece) (rest : Text) :
    (piece.before rest).length = piece.length + rest.length := by
  cases piece with
  | text content => simp [before, length]
  | run point count => exact length_repeat point count rest

end Piece

abbrev Pieces := List Piece

namespace Pieces

def length (pieces : Pieces) : Nat :=
  pieces.foldr (fun piece rest => piece.length + rest) 0

def toText (pieces : Pieces) : Text :=
  pieces.foldr (fun piece rest => piece.before rest) []

theorem length_toText (pieces : Pieces) : (toText pieces).length = length pieces := by
  induction pieces with
  | nil => rfl
  | cons piece rest ih =>
    simp only [toText, length, List.foldr_cons] at ih ⊢
    rw [Piece.length_before, ih]

end Pieces

end Lisplet
