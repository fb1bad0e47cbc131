/-!
Decimal integers in texts. A reader is given the bounds of the number it may
return and says why a text is refused: nothing to read, a character that is no
digit, or a value beyond a bound. Digits are taken from the left, so the first
offence decides.
-/

namespace BidFleet.Text

/-- Why a text is no integer within the bounds. -/
inductive IntegerFault where
  | empty
  | invalidDigit
  | tooLarge
  | tooSmall
  deriving DecidableEq, Repr

namespace IntegerFault

def message : IntegerFault → String
  | empty => "cannot parse integer from empty string"
  | invalidDigit => "invalid digit found in string"
  | tooLarge => "number too large to fit in target type"
  | tooSmall => "number too small to fit in target type"

end IntegerFault

def digit? (c : Char) : Option Nat :=
  if c.isDigit then some (c.toNat - 48) else none

/-- The value of a hexadecimal digit in either case. -/
def hexDigit? (c : Char) : Option Nat :=
  if c.isDigit then some (c.toNat - 48)
  else if 'a' ≤ c ∧ c ≤ 'f' then some (c.toNat - 87)
  else if 'A' ≤ c ∧ c ≤ 'F' then some (c.toNat - 55)
  else none

/-- The number that hexadecimal digits spell; no digits spell zero. -/
def hexNumber? (digits : List Char) : Option Nat :=
  digits.foldl (fun acc? c =>
    match acc?, hexDigit? c with
    | some acc, some d => some (acc * 16 + d)
    | _, _ => none) (some 0)

/-- The number that `acc` becomes by appending digits; `beyond` is reported as
soon as it exceeds `bound`. -/
def readDigits (bound : Nat) (beyond : IntegerFault) : Nat → List Char → Except IntegerFault Nat
  | acc, [] => .ok acc
  | acc, c :: cs =>
    match digit? c with
    | none => .error .invalidDigit
    | some d =>
      if acc * 10 + d > bound then .error beyond else readDigits bound beyond (acc * 10 + d) cs

def readMagnitude (bound : Nat) (beyond : IntegerFault) : List Char → Except IntegerFault Nat
  | [] => .error .invalidDigit
  | c :: cs => readDigits bound beyond 0 (c :: cs)

/-- A number from `0` to `bound`: digits, with at most one `+` before them. -/
def readNatural (bound : Nat) : List Char → Except IntegerFault Nat
  | [] => .error .empty
  | '+' :: cs => readMagnitude bound .tooLarge cs
  | c :: cs => readMagnitude bound .tooLarge (c :: cs)

/-- A number from `-below` to `above`: digits, with at most one sign before them. -/
def readInteger (below above : Nat) : List Char → Except IntegerFault Int
  | [] => .error .empty
  | '+' :: cs => (readMagnitude above .tooLarge cs).map Int.ofNat
  | '-' :: cs => (readMagnitude below .tooSmall cs).map (fun n => -Int.ofNat n)
  | c :: cs => (readMagnitude above .tooLarge (c :: cs)).map Int.ofNat

def readUInt8 (text : List Char) : Except IntegerFault UInt8 :=
  (readNatural 255 text).map UInt8.ofNat

def readUInt64 (text : List Char) : Except IntegerFault UInt64 :=
  (readNatural (UInt64.size - 1) text).map UInt64.ofNat

def readInt64 (text : List Char) : Except IntegerFault Int64 :=
  (readInteger (UInt64.size / 2) (UInt64.size / 2 - 1) text).map Int64.ofInt

def natural (n : Nat) : List Char := Nat.toDigits 10 n

/-- A signed number: its digits, with `-` before them when it is negative. -/
def integer : Int → List Char
  | .ofNat n => natural n
  | .negSucc n => '-' :: natural (n + 1)

end BidFleet.Text
