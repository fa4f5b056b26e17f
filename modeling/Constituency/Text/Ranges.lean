/-!
# Sets of characters given by ranges

The larger character properties are tables of ranges of code points, each with both ends included
and in increasing order. This module says how such a table is asked.
-/
namespace Constituency.Text

/-- Whether a character lies in one of the ranges. -/
def inRanges (ranges : List (Nat × Nat)) (c : Char) : Bool :=
  ranges.any fun (first, last) => first ≤ c.toNat && c.toNat ≤ last

end Constituency.Text
