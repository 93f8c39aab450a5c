/-!
# Sets of characters given by their boundaries

A set of code points is kept as the increasing list of the places where membership changes: the
set starts empty, and every boundary switches it. A code point is in the set exactly when an odd
number of boundaries is at or below it.
-/

namespace Deadwood.Text

/-- The places, in increasing order, where membership in a set of code points changes. -/
structure RangeTable where
  bounds : Array Nat

namespace RangeTable

/-- The number of boundaries of the slice `lo ≤ i < lo + size` that are at or below `x`, counted
from the start of the table, by halving the slice. -/
def countFrom (bounds : Array Nat) (x : Nat) (lo size : Nat) : Nat :=
  if size = 0 then lo
  else
    let half := size / 2
    match bounds[lo + half]? with
    | none => lo
    | some b =>
      if b ≤ x then countFrom bounds x (lo + half + 1) (size - half - 1)
      else countFrom bounds x lo half
termination_by size
decreasing_by all_goals omega

/-- Whether `x` is in the set: an odd number of boundaries is at or below it. -/
def contains (t : RangeTable) (x : Nat) : Bool :=
  countFrom t.bounds x 0 t.bounds.size % 2 == 1

end RangeTable

end Deadwood.Text
