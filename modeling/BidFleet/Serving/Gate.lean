/-!
The throttle gate. It draws one of the outcomes 0 to 100 from 32-bit random
words and admits an opportunity when the outcome is below the percentage. A word
stands for the outcome in which its multiple by 101 begins, unless it lies in
the uneven end of its window; then the next word is taken.
-/

namespace BidFleet.Serving.Gate

/-- The percentage from which on nothing is held back. -/
def open100 : UInt8 := 100

/-- The number of outcomes. -/
def outcomes : Nat := 101

/-- The largest remainder of a word that is taken. -/
def zone : Nat := UInt32.size - 1 - UInt32.size % outcomes

/-- The outcome that a word stands for. -/
def outcome (w : UInt32) : Nat := w.toNat * outcomes / UInt32.size

def taken (w : UInt32) : Bool := w.toNat * outcomes % UInt32.size ≤ zone

/-- The outcome of the first word that is taken, and how many words were read.
Behind the end of the supply every word is zero. -/
def draw : List UInt32 → Nat × Nat
  | [] => (outcome 0, 1)
  | w :: ws =>
    if taken w then (outcome w, 1)
    else
      let (n, used) := draw ws
      (n, used + 1)

/-- Whether an opportunity is admitted, and how many words were read. -/
def letsPass (percent : UInt8) (words : List UInt32) : Bool × Nat :=
  if percent ≥ open100 then (true, 0)
  else
    let (n, used) := draw words
    (n < percent.toNat, used)

end BidFleet.Serving.Gate
