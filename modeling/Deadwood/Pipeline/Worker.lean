import Deadwood.Failure
import Deadwood.Report.Basic

/-!
# Workers

What analyses a workspace, seen from a clock: how long each analysis takes and what it gives.
-/

namespace Deadwood

/-- How long an analysis takes, in milliseconds, and what it gives. -/
structure Analysis where
  span : Nat := 0
  outcome : Except Failure Report := .ok {}
deriving Inhabited

/-- What each analysis gives, the first one being number zero. -/
abbrev Worker := Nat → Analysis

/-- The worker that gives the analyses of a list and empty reports without delay after them. -/
def Worker.ofList (analyses : List Analysis) : Worker := fun n => analyses[n]?.getD {}

end Deadwood
