/-!
Sets of characters, given by ranges of code points in ascending order.
-/

namespace BidFleet.Text

def inRanges (code : Nat) : List (Nat × Nat) → Bool
  | [] => false
  | (low, high) :: rest => low ≤ code && (code ≤ high || inRanges code rest)

/-- What the range around a code point is marked with. -/
def markOf? (code : Nat) : List (Nat × Nat × Nat) → Option Nat
  | [] => none
  | (low, high, mark) :: rest =>
    if code < low then none else if code ≤ high then some mark else markOf? code rest

end BidFleet.Text
