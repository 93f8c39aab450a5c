import Deadwood.Finding.Basic

/-!
# Lenses

The note shown above the definition of every function that is never used.
-/

namespace Deadwood

/-- A note above a line, counted from one. Formalises `LensMarker`. -/
structure Lens where
  line : UInt32
  title : String
deriving DecidableEq, Repr, Inhabited

/-- The lenses of a file. Formalises `lenses_in`. -/
def Lens.inFile (r : Report) (file : Path) : List Lens :=
  (r.unusedIn file).map fun f => ⟨f.line, unusedMessage⟩

end Deadwood
