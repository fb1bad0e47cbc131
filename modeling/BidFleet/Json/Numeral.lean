import BidFleet.Json.Fault

/-!
Numbers of a JSON text. Digits are gathered in a 64-bit significand; those that
no longer fit only move the decimal point. A float is the significand scaled by
a power of ten, rounding once for the significand and once for the scaling, and
a number beyond every float is refused.
-/

namespace BidFleet.Json

def digitValue? (b : UInt8) : Option Nat :=
  if 48 ≤ b ∧ b ≤ 57 then some (b.toNat - 48) else none

def isDigit (b : UInt8) : Bool := 48 ≤ b && b ≤ 57

def startsWithDigit : Bytes → Bool
  | b :: _ => isDigit b
  | [] => false

/-- Appends digits to `acc` while the number stays within `limit`, and stops
before the digit that would take it beyond. -/
def gather (limit : Nat) : Nat → Bytes → Nat × Bytes
  | acc, [] => (acc, [])
  | acc, b :: bs =>
    match digitValue? b with
    | some d => if acc * 10 + d ≤ limit then gather limit (acc * 10 + d) bs else (acc, b :: bs)
    | none => (acc, b :: bs)

def skipDigits (bytes : Bytes) : Bytes := bytes.dropWhile isDigit

def significandLimit : Nat := UInt64.size - 1

/-- The largest exponent that is read digit by digit. -/
def exponentLimit : Nat := UInt32.size / 2 - 1

def powerOfTen (n : Nat) : Float := Float.ofScientific 1 false n

/-- Divides by ten to a power that may exceed every float, in steps of `10^308`. -/
def scaleDown : Nat → Float → Nat → Float
  | 0, _, _ => 0.0
  | fuel + 1, x, n =>
    if n ≤ 308 then x / powerOfTen n
    else if x == 0.0 then x
    else scaleDown fuel (x / powerOfTen 308) (n - 308)

/-- The magnitude `significand · 10^exponent`; `none` when it is beyond every
float. Three steps down take every significand to zero. -/
def scale? (significand : Nat) (exponent : Int) : Option Float :=
  let x := significand.toUInt64.toFloat
  match exponent with
  | .ofNat n =>
    if n ≤ 308 then
      let y := x * powerOfTen n
      if y.isInf then none else some y
    else if x == 0.0 then some x
    else none
  | .negSucc n => some (scaleDown 4 x (n + 1))

def signed (negative : Bool) (x : Float) : Float := if negative then -x else x

/-- The float with this sign, significand and exponent, read up to `rest`. -/
def finishFloat (negative : Bool) (significand : Nat) (exponent : Int) : Reader Number :=
  fun rest =>
  match scale? significand exponent with
  | some x => .ok (.float (signed negative x), rest)
  | none => failAt .numberOutOfRange rest

/-- An exponent, from behind its mark. -/
def readExponent (negative : Bool) (significand : Nat) (start : Int) : Reader Number := fun bytes =>
  let (down, bytes) :=
    match bytes with
    | 43 :: rest => (false, rest)
    | 45 :: rest => (true, rest)
    | rest => (false, rest)
  match bytes with
  | [] => failAt .endOfValue []
  | b :: rest =>
    if isDigit b then
      let (e, rest) := gather exponentLimit 0 (b :: rest)
      if startsWithDigit rest then
        if significand ≠ 0 ∧ !down then failAt .numberOutOfRange rest.tail
        else .ok (.float (signed negative 0.0), skipDigits rest)
      else finishFloat negative significand (if down then start - e else start + e) rest
    else failAt .invalidNumber rest

/-- What may follow the digits of a float: an exponent or nothing. -/
def readScale (negative : Bool) (significand : Nat) (exponent : Int) : Reader Number
  | b :: rest =>
    if b = 101 ∨ b = 69 then readExponent negative significand exponent rest
    else finishFloat negative significand exponent (b :: rest)
  | [] => finishFloat negative significand exponent []

/-- A fraction, from behind its point. -/
def readFraction (negative : Bool) (significand : Nat) (exponent : Int) : Reader Number :=
  fun bytes =>
  let (significand, rest) := gather significandLimit significand bytes
  let taken := bytes.length - rest.length
  if startsWithDigit rest then
    readScale negative significand (exponent - taken) (skipDigits rest)
  else if taken = 0 then
    match rest with
    | [] => failAt .endOfValue []
    | _ :: rest => failAt .invalidNumber rest
  else readScale negative significand (exponent - taken) rest

/-- The integer with this sign and magnitude. A negative zero and a magnitude
beyond the signed numbers become floats. -/
def finishInteger (negative : Bool) (significand : Nat) : Number :=
  if negative then
    if significand = 0 ∨ significand > UInt64.size / 2 then .float (-significand.toUInt64.toFloat)
    else .int (-(significand : Int))
  else .int significand

/-- What may follow the whole part of a number. -/
def readTail (negative : Bool) (significand : Nat) : Reader Number
  | b :: rest =>
    if b = 46 then readFraction negative significand 0 rest
    else if b = 101 ∨ b = 69 then readExponent negative significand 0 rest
    else .ok (finishInteger negative significand, b :: rest)
  | [] => .ok (finishInteger negative significand, [])

/-- What may follow a whole part whose last `extra` digits did not fit. -/
def readLongTail (negative : Bool) (significand : Nat) (extra : Nat) : Reader Number
  | b :: rest =>
    if b = 46 then readFraction negative significand extra rest
    else readScale negative significand extra (b :: rest)
  | [] => finishFloat negative significand extra []

/-- A number, from behind its sign. -/
def readMagnitude (negative : Bool) : Reader Number
  | [] => failAt .endOfValue []
  | b :: bs =>
    if b = 48 then
      if startsWithDigit bs then failNext .invalidNumber bs else readTail negative 0 bs
    else if isDigit b then
      let (significand, rest) := gather significandLimit 0 (b :: bs)
      if startsWithDigit rest then
        let tail := skipDigits rest
        readLongTail negative significand (rest.length - tail.length) tail
      else readTail negative significand rest
    else failAt .invalidNumber bs

def readNumber : Reader Number
  | 45 :: rest => readMagnitude true rest
  | bytes => readMagnitude false bytes

/-- What follows an exponent that nobody reads, from behind its mark. -/
def skipExponent (bytes : Bytes) : Except Fault Bytes :=
  let bytes :=
    match bytes with
    | 43 :: rest => rest
    | 45 :: rest => rest
    | rest => rest
  match bytes with
  | [] => failAt .invalidNumber []
  | b :: rest => if isDigit b then .ok (skipDigits rest) else failAt .invalidNumber rest

/-- What follows a fraction that nobody reads, from behind its point. -/
def skipFraction (bytes : Bytes) : Except Fault Bytes :=
  if startsWithDigit bytes then
    match skipDigits bytes with
    | b :: rest => if b = 101 ∨ b = 69 then skipExponent rest else .ok (b :: rest)
    | [] => .ok []
  else failNext .invalidNumber bytes

/-- What follows a number that nobody reads, from behind its sign. -/
def skipMagnitude : Bytes → Except Fault Bytes
  | [] => failAt .invalidNumber []
  | b :: bs =>
    let whole : Except Fault Bytes :=
      if b = 48 then
        if startsWithDigit bs then failNext .invalidNumber bs else .ok bs
      else if isDigit b then .ok (skipDigits bs)
      else failAt .invalidNumber bs
    match whole with
    | .error fault => .error fault
    | .ok (c :: rest) =>
      if c = 46 then skipFraction rest
      else if c = 101 ∨ c = 69 then skipExponent rest
      else .ok (c :: rest)
    | .ok [] => .ok []

end BidFleet.Json
