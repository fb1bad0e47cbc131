/-!
The shortest decimal of a binary64 number. A finite number is `m · 2^q`; the
reals that round to it form an interval around it, closed when `m` is even.
`shortest` goes through the decimal grids from coarse to fine and takes, on the
first grid with a point in the interval, the point nearest to the number.
-/

namespace BidFleet.Decimal

/-- A number without its sign as `significand · 2^exponent`; `narrow` says that
the next number below is only half as far away as the next one above. -/
structure Binary where
  significand : Nat
  exponent : Int
  narrow : Bool
  deriving DecidableEq, Repr

inductive Class where
  | nan
  | infinite (negative : Bool)
  | zero (negative : Bool)
  | finite (negative : Bool) (value : Binary)
  deriving DecidableEq, Repr

/-- The weight of the leading bit of a significand, which is not stored. -/
def hidden : Nat := 4503599627370496

/-- What the 64 bits of a number say: a sign, eleven bits of an exponent, and
the bits of the significand below the leading one. -/
def classOfBits (bits : Nat) : Class :=
  let negative := bits / (2048 * hidden) % 2 == 1
  let field : Nat := bits / hidden % 2048
  let fraction : Nat := bits % hidden
  if field = 2047 then
    if fraction = 0 then .infinite negative else .nan
  else if field = 0 then
    if fraction = 0 then .zero negative
    else .finite negative ⟨fraction, -1074, false⟩
  else
    .finite negative ⟨hidden + fraction, (field : Int) - 1075, fraction == 0 && field > 1⟩

def classify (x : Float) : Class := classOfBits x.toBits.toNat

/-- A positive number `digits · 10^exponent`. -/
structure Scaled where
  digits : Nat
  exponent : Int
  deriving DecidableEq, Repr

/-- The factors that make points of the grid `10^k` and quarters of `2^q`
comparable: `c · 10^k` against `v · 2^q / 4` is `c · fst` against `v · snd`. -/
def scales (q k : Int) : Nat × Nat :=
  (Nat.pow 10 k.toNat * Nat.pow 2 (2 - q).toNat, Nat.pow 10 (-k).toNat * Nat.pow 2 (q - 2).toNat)

/-- Whether the grid point `c` reads back as the number. -/
def readsBack (b : Binary) (k : Int) (c : Nat) : Bool :=
  let (grid, unit) := scales b.exponent k
  let low := (4 * b.significand - if b.narrow then 1 else 2) * unit
  let high := (4 * b.significand + 2) * unit
  if b.significand % 2 = 0 then low ≤ c * grid && c * grid ≤ high
  else low < c * grid && c * grid < high

/-- The nearest point of the grid `10^k` that reads back; of two equally near
ones the even one. -/
def onGrid? (b : Binary) (k : Int) : Option Nat :=
  let (grid, unit) := scales b.exponent k
  let value := 4 * b.significand * unit
  let below := value / grid
  match readsBack b k below, readsBack b k (below + 1) with
  | false, false => none
  | true, false => some below
  | false, true => some (below + 1)
  | true, true =>
    let toBelow := value - below * grid
    let toAbove := (below + 1) * grid - value
    if toBelow < toAbove then some below
    else if toAbove < toBelow then some (below + 1)
    else if below % 2 = 0 then some below else some (below + 1)

/-- The exponent of the leading decimal digit. The factor `10^340` lifts every
number above one. -/
def leadingExponent (b : Binary) : Int :=
  let (grid, unit) := scales b.exponent (-340)
  ((Nat.toDigits 10 (4 * b.significand * unit / grid)).length : Int) - 341

/-- The first hit on the grids that show `count`, `count + 1`, … digits. -/
def searchGrids (b : Binary) (top : Int) : Nat → Nat → Option Scaled
  | 0, _ => none
  | tries + 1, count =>
    let k := top + 1 - (count : Int)
    match onGrid? b k with
    | some c => some ⟨c, k⟩
    | none => searchGrids b top tries (count + 1)

/-- A decimal with the zeros at its end moved into the exponent. -/
def stripZeros : Nat → Scaled → Scaled
  | 0, d => d
  | fuel + 1, d =>
    if d.digits ≠ 0 ∧ d.digits % 10 = 0 then stripZeros fuel ⟨d.digits / 10, d.exponent + 1⟩ else d

/-- The shortest decimal that reads back as the number: seventeen digits are
always enough, so the search ends with a hit. -/
def shortest (b : Binary) : Scaled :=
  stripZeros 20 ((searchGrids b (leadingExponent b) 17 1).getD ⟨b.significand, b.exponent⟩)

end BidFleet.Decimal
