import BidFleet.Text.Integer

/-!
Numbers from text. `read?` accepts a sign, digits with at most one point, and an
exponent, or the names of infinity and of the undefined number in any case, and
rounds to the nearest binary64 number.
-/

namespace BidFleet.Decimal

/-- The digits at the front of a text and the text after them. -/
def spanDigits (text : List Char) : List Char × List Char :=
  (text.takeWhile Char.isDigit, text.dropWhile Char.isDigit)

def digitsValue (digits : List Char) : Nat :=
  digits.foldl (fun n c => n * 10 + (c.toNat - '0'.toNat)) 0

/-- The binary64 number nearest to `significand · 10^exponent`. Exponents that
put the number beyond every finite one, or below every positive one, decide
without being computed. -/
def nearest (significand : Nat) (exponent : Int) : Float :=
  if significand = 0 then 0.0
  else
    let point := ((Nat.toDigits 10 significand).length : Int) + exponent
    if point > 310 then 1.0 / 0.0
    else if point < -330 then 0.0
    else if exponent < 0 then Float.ofScientific significand true exponent.natAbs
    else Float.ofScientific significand false exponent.natAbs

/-- An exponent with its mark; the empty text is the exponent zero. -/
def readExponent? : List Char → Option Int
  | [] => some 0
  | mark :: text =>
    if mark = 'e' ∨ mark = 'E' then
      let (negative, digits) :=
        match text with
        | '-' :: rest => (true, rest)
        | '+' :: rest => (false, rest)
        | rest => (false, rest)
      if digits.isEmpty ∨ !digits.all Char.isDigit then none
      else some (if negative then -(digitsValue digits : Int) else digitsValue digits)
    else none

/-- Digits with at most one point among or around them, and an exponent. -/
def readUnsigned? (text : List Char) : Option Float :=
  let (whole, rest) := spanDigits text
  let (fraction, rest) :=
    match rest with
    | '.' :: rest => spanDigits rest
    | rest => ([], rest)
  if whole.isEmpty ∧ fraction.isEmpty then none
  else
    match readExponent? rest with
    | none => none
    | some e => some (nearest (digitsValue (whole ++ fraction)) (e - fraction.length))

def readMagnitude? (text : List Char) : Option Float :=
  let word := text.map Char.toLower
  if word = "inf".toList ∨ word = "infinity".toList then some (1.0 / 0.0)
  else if word = "nan".toList then some (0.0 / 0.0)
  else readUnsigned? text

def read? : List Char → Option Float
  | '-' :: text => (readMagnitude? text).map Float.neg
  | '+' :: text => readMagnitude? text
  | text => readMagnitude? text

end BidFleet.Decimal
