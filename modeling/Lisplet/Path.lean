import Lisplet.Text.Quoted

/-!
Paths of files, in their normal form: without empty and single-dot components. A path keeps whether
it starts with no, one or exactly two slashes, and it keeps double dots.
-/

namespace Lisplet

inductive PathRoot
  | relative
  | absolute
  | doubleSlash
deriving DecidableEq

structure Path where
  root : PathRoot
  components : List Text
deriving DecidableEq

namespace Path

def slash : CodePoint := CodePoint.ofChar '/'

def rootOf (text : Text) : PathRoot :=
  match (text.takeWhile (· = slash)).length with
  | 0 => .relative
  | 2 => .doubleSlash
  | _ => .absolute

def ofText (text : Text) : Path :=
  ⟨rootOf text, (Text.splitOn slash text).filter fun component => component ≠ [] ∧ component ≠ "."⟩

def rootText : PathRoot → Text
  | .relative => []
  | .absolute => "/"
  | .doubleSlash => "//"

def render (path : Path) : Text :=
  match path.root, path.components with
  | .relative, [] => "."
  | root, components => rootText root ++ Text.join "/" components

def append (directory path : Path) : Path :=
  match path.root with
  | .relative => ⟨directory.root, directory.components ++ path.components⟩
  | _ => path

def debug (path : Path) : Text :=
  "PosixPath(" ++ path.render.quoted ++ ")"

end Path

end Lisplet
