import BidFleet.Text.Utf8

/-!
Percent encoding. An octet that may not stand for itself is written as `%` and
two hexadecimal digits. Decoding takes every such triple back to its octet and
leaves a `%` that starts none as it is.
-/

namespace BidFleet.Percent

/-- A hexadecimal digit as an octet of text, letters in upper case. -/
def hexDigit (n : Nat) : UInt8 := UInt8.ofNat (if n < 10 then 48 + n else 55 + n)

/-- The value of a hexadecimal digit in either case. -/
def hexValue? (b : UInt8) : Option Nat :=
  let n := b.toNat
  if 48 ≤ n ∧ n ≤ 57 then some (n - 48)
  else if 65 ≤ n ∧ n ≤ 70 then some (n - 55)
  else if 97 ≤ n ∧ n ≤ 102 then some (n - 87)
  else none

def escape (b : UInt8) : Bytes := [37, hexDigit (b.toNat / 16), hexDigit (b.toNat % 16)]

/-- Every octet that `reserved` holds of is escaped. -/
def encode (reserved : UInt8 → Bool) (bytes : Bytes) : Bytes :=
  bytes.flatMap (fun b => if reserved b then escape b else [b])

def decode : Bytes → Bytes
  | [] => []
  | b :: hi :: lo :: rest =>
    if b = 37 then
      match hexValue? hi, hexValue? lo with
      | some h, some l => UInt8.ofNat (h * 16 + l) :: decode rest
      | _, _ => b :: decode (hi :: lo :: rest)
    else b :: decode (hi :: lo :: rest)
  | b :: rest => b :: decode rest

end BidFleet.Percent
