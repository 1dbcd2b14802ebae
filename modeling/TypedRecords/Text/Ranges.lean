/-!
Classes of characters given as ascending, disjoint ranges of code points.
-/

set_option autoImplicit false

namespace TypedRecords.Text

/-- Whether a code point lies in one of the ranges of an ascending list. -/
def inRanges (code : Nat) : List (Nat × Nat) → Bool
  | [] => false
  | (first, last) :: rest =>
    if code < first then false else if code ≤ last then true else inRanges code rest

end TypedRecords.Text
