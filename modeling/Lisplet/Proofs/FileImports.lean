import Lisplet.Proofs.BrokenOff
import Lisplet.Proofs.Depth
import Lisplet.Proofs.Frames

/-!
Imports of files. Wherever the import of a file stands, it does what evaluating the text of the file
at top level does: both leave the same world and give the same value, and a failure goes through the
expression that imports as well.
-/

namespace Lisplet

variable {α β ι : Type}

/-! ### Failures behind an import -/

namespace Failure

end Failure

/-! ### Folds of runs -/

namespace Run

end Run

/-! ### Evaluations of forms -/

namespace Catalogue

variable {catalogue : Catalogue} {depth : Nat} {world last : World}

end Catalogue

/-! ### The import of a file -/

/-- What a file is read from: its text under its path, with line feeds at the ends of lines. -/
def Path.source (path : Path) (text : Text) : Source :=
  Source.ofText path.render text.withLineFeeds

namespace Catalogue

variable {catalogue : Catalogue} {depth : Nat} {world : World}

end Catalogue

namespace Interpreter

variable {interpreter : Interpreter} {world last : World}

end Interpreter

end Lisplet
