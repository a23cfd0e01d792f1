/-!
# Sets of code points

A set of code points is kept as the ascending array of the points where membership changes:
the first entry is the first member, the second the first non-member after it, and so on. A point is
a member exactly when an odd number of entries is at most that point, which bisection counts.
-/

namespace PageScript.Text

/-- For an ascending `key`, the first index in `[lo, hi)` whose key exceeds `x`, or `hi`. -/
def bisect (key : Nat → Nat) (x lo hi : Nat) : Nat :=
  if lo < hi then
    let mid := (lo + hi) / 2
    if key mid ≤ x then bisect key x (mid + 1) hi else bisect key x lo mid
  else lo
termination_by hi - lo

/-- Membership of `x` in the set with the change points `bounds`. -/
def inRanges (bounds : Array Nat) (x : Nat) : Bool :=
  bisect (bounds.getD · 0) x 0 bounds.size % 2 == 1

end PageScript.Text
