/-!
# The order of pairs of numbers

What a search or a parse has been through is kept by pairs of numbers: an address or a production,
and a position. Such pairs are ordered by their first parts and then by their second parts.
-/
namespace Constituency

def comparePair : Nat × Nat → Nat × Nat → Ordering :=
  compareLex (compareOn Prod.fst) (compareOn Prod.snd)

instance : Std.TransCmp comparePair := inferInstanceAs (Std.TransCmp (compareLex _ _))

instance : Std.LawfulEqCmp comparePair where
  eq_of_compare {a b} equal := by
    simp only [comparePair, compareLex, Ordering.then_eq_eq, compareOn] at equal
    exact Prod.ext (Nat.compare_eq_eq.mp equal.1) (Nat.compare_eq_eq.mp equal.2)

end Constituency
