import Lisplet.Files
import Lisplet.Library
import Lisplet.Failure

/-!
What programs can import: libraries by name, and source files on a search path. Names of both are
flat.
-/

namespace Lisplet

structure Catalogue where
  libraries : List (Text × Library)
  searchPath : List Path
  files : Files

namespace Catalogue

def library? (catalogue : Catalogue) (name : Text) : Option Library :=
  (catalogue.libraries.find? fun entry => entry.1 = name).map Prod.snd

def isFlat (name : Text) : Bool :=
  !name.isEmpty && !name.any fun point =>
    point = CodePoint.ofChar '.' || point = Path.slash || point = Text.backslash

def ending : Text := ".rum"

def fileIn (files : Files) (name : Text) : List Path → Except Fault (Option (Path × List UInt8))
  | [] => .ok none
  | directory :: rest =>
    let path := directory.append (Path.ofText (name ++ ending))
    match files.find path with
    | .file content => .ok (some (path, content))
    | .nameTooLong => .error (.nameTooLong path)
    | .directory | .nothing => fileIn files name rest

def resolve (catalogue : Catalogue) (name : Text) : Except Fault (Option (Path × List UInt8)) :=
  fileIn catalogue.files name catalogue.searchPath

def sourceOf (path : Path) (content : List UInt8) : Except Fault Source :=
  match Utf8.decode content with
  | .ok text => .ok (Source.ofText path.render text.withLineFeeds)
  | .error malformed => .error (.undecodable malformed)

end Catalogue

end Lisplet
