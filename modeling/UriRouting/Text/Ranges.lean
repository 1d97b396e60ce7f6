/-! # Sets of code points

A property of characters that no short rule gives is kept as the ascending list of the runs of
code points that have it.
-/

namespace UriRouting.Text

/-- Runs of code points, each given by its first and last one, in ascending order. -/
abbrev Ranges := List (Nat × Nat)

/-- Whether a code point lies in one of the runs. The list ascends, so the search ends at the
first run that starts later. -/
def Ranges.holds : Ranges → Nat → Bool
  | [], _ => false
  | (first, last) :: later, n => decide (first ≤ n) && (decide (n ≤ last) || Ranges.holds later n)

end UriRouting.Text
