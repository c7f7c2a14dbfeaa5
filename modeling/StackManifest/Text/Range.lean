/-!
# Sets of characters

A set of characters is given by the intervals of their code points.

* `inRanges` – whether a code point lies in one of some intervals.
-/

namespace StackManifest.Text

/-- Whether a code point lies **in one of some intervals**. -/
def inRanges (rs : List (Nat × Nat)) (n : Nat) : Bool := rs.any fun r => r.1 ≤ n && n ≤ r.2

end StackManifest.Text
