import Lisplet.Path
import Lisplet.Text.Utf8

/-!
A tree of files below the current directory. Files are named by bytes. Of what lies outside of the
tree only directories are known: those above it, and those that every system has.
-/

namespace Lisplet

abbrev FileName := List UInt8

namespace FileName

/-- The bytes of one code point in a name. The null character and most surrogates have none; the
others stand for bytes that are not text. -/
def ofPoint? (point : CodePoint) : Option (List UInt8) :=
  if point.val = 0 then none
  else if 0xDC80 ≤ point.val ∧ point.val ≤ 0xDCFF then some [UInt8.ofNat (point.val - 0xDC00)]
  else if point.isSurrogate then none
  else some (Utf8.encodePoint point)

def ofText? (text : Text) : Option FileName :=
  (text.mapM ofPoint?).map List.flatten

def longest : Nat := 255

def upward : FileName := Utf8.encode ".."

end FileName

inductive FileEntry
  | file (content : List UInt8)
  | directory

/-- The entries by the names along their paths; the directories above an entry are there too. -/
structure Files where
  entries : List (List FileName × FileEntry)

inductive Found
  | file (content : List UInt8)
  | directory
  | nothing
  | nameTooLong

inductive Place
  | inside (names : List FileName)
  | above
  | system (names : List FileName)

def systemDirectories : List String :=
  ["bin", "boot", "dev", "dev/shm", "etc", "home", "lib", "media", "mnt", "opt", "root", "run",
    "sbin", "srv", "tmp", "usr", "usr/bin", "usr/include", "usr/lib", "usr/local", "usr/local/bin",
    "usr/local/lib", "usr/sbin", "usr/share", "usr/src", "var", "var/cache", "var/lib", "var/log",
    "var/tmp"]

def isSystemDirectory (names : List FileName) : Bool :=
  names.isEmpty || systemDirectories.any fun directory =>
    (Text.splitOn Path.slash directory).map Utf8.encode = names

namespace Files

def empty : Files := ⟨[]⟩

def write (files : Files) (path : Path) (entry : FileEntry) : Files :=
  match path.components.mapM FileName.ofText? with
  | none => files
  | some names => ⟨(names, entry) :: files.entries.filter fun (other, _) => other ≠ names⟩

def entry? (files : Files) (names : List FileName) : Option FileEntry :=
  match files.entries.find? fun (other, _) => other = names with
  | some (_, entry) => some entry
  | none =>
    if names.isEmpty || files.entries.any fun (other, _) => names.isPrefixOf other then
      some .directory
    else none

def entryAt (files : Files) : Place → Option FileEntry
  | .inside names => files.entry? names
  | .above => some .directory
  | .system names => if isSystemDirectory names then some .directory else none

def around : Place → Place
  | .inside [] => .above
  | .inside (first :: rest) => .inside (first :: rest).dropLast
  | .above => .above
  | .system names => .system names.dropLast

def below (name : FileName) : Place → Option Place
  | .inside names => some (.inside (names ++ [name]))
  | .above => none
  | .system names => some (.system (names ++ [name]))

def follow (files : Files) (place : Place) : List FileName → Found
  | [] =>
    match files.entryAt place with
    | some (.file content) => .file content
    | some .directory => .directory
    | none => .nothing
  | name :: rest =>
    match files.entryAt place with
    | some .directory =>
      if name = FileName.upward then follow files (around place) rest
      else if FileName.longest < name.length then .nameTooLong
      else
        match below name place with
        | some lower => follow files lower rest
        | none => .nothing
    | _ => .nothing

def longestPath : Nat := 4095

def origin : PathRoot → Place
  | .relative => .inside []
  | .absolute | .doubleSlash => .system []

def find (files : Files) (path : Path) : Found :=
  match FileName.ofText? path.render, path.components.mapM FileName.ofText? with
  | some whole, some names =>
    if longestPath < whole.length then .nameTooLong
    else files.follow (origin path.root) names
  | _, _ => .nothing

end Files

end Lisplet
