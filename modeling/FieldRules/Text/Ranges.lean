/-!
# Sets of code points

A set of characters written as its increasing list of boundaries. A code point lies inside the set
exactly when an odd number of boundaries are at most it, so membership is one binary search.
-/

namespace FieldRules.Text

/-- A set of code points, given by the points at which membership changes. -/
structure Ranges where
  /-- The boundaries in increasing order: the set starts at the first and ends before the second. -/
  bounds : Array Nat

namespace Ranges

/-- How many of the boundaries between `lo` and `hi` come before the first one above `n`, counted
from the start of the array. All boundaries before `lo` are at most `n`, all from `hi` on are above. -/
def countAtMost (r : Ranges) (n lo hi : Nat) : Nat :=
  if h : lo < hi then
    let mid := (lo + hi) / 2
    if r.bounds.getD mid 0 ≤ n then countAtMost r n (mid + 1) hi else countAtMost r n lo mid
  else lo
termination_by hi - lo

/-- Whether the character lies in the set. -/
def contains (r : Ranges) (c : Char) : Bool :=
  countAtMost r c.toNat 0 r.bounds.size % 2 == 1

end Ranges
end FieldRules.Text
