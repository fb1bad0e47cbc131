import BidFleet.Decimal.Shortest

/-!
Numbers as text. A layout says between which positions of the decimal point a
number is written with its zeros; outside of them it gets an exponent.
-/

namespace BidFleet.Decimal

/-- The positions of the decimal point, counted from the first digit, at which
no exponent is written: more than `above` and at most `upTo`. -/
structure Layout where
  above : Int
  upTo : Int

def Layout.json : Layout := ⟨-5, 16⟩

/-- The digits with the point after `point` of them. -/
def positional (digits : List Char) (point : Int) : List Char :=
  if point ≤ 0 then '0' :: '.' :: List.replicate (-point).toNat '0' ++ digits
  else
    let whole := point.toNat
    if digits.length ≤ whole then
      digits ++ List.replicate (whole - digits.length) '0' ++ ['.', '0']
    else digits.take whole ++ '.' :: digits.drop whole

/-- One digit, the point and the others, and the exponent with its sign. -/
def scientific (digits : List Char) (point : Int) : List Char :=
  let e := point - 1
  let tail := if digits.length ≤ 1 then [] else '.' :: digits.drop 1
  let sign := if e < 0 then '-' else '+'
  digits.take 1 ++ tail ++ 'e' :: sign :: Nat.toDigits 10 e.natAbs

/-- A positive decimal in a layout. -/
def Layout.writeScaled (layout : Layout) (d : Scaled) : List Char :=
  let digits := Nat.toDigits 10 d.digits
  let point := (digits.length : Int) + d.exponent
  if layout.above < point ∧ point ≤ layout.upTo then positional digits point
  else scientific digits point

/-- The text of a number; `none` when it is not finite. -/
def Layout.write? (layout : Layout) (x : Float) : Option (List Char) :=
  let signed (negative : Bool) (text : List Char) := if negative then '-' :: text else text
  match classify x with
  | .nan | .infinite _ => none
  | .zero negative => some (signed negative ['0', '.', '0'])
  | .finite negative b => some (signed negative (layout.writeScaled (shortest b)))

end BidFleet.Decimal
