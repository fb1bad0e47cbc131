import BidFleet.Json.Fault

/-!
Strings of a JSON text. `readChars` starts behind the opening quote and ends
behind the closing one. Octets that are no character are remembered and refused
at the closing quote; `skipChars` passes over a string that nobody reads and
looks at its escapes only as far as their digits.
-/

namespace BidFleet.Json

/-- The 16-bit unit that an escape names by four digits. -/
def readUnit : Reader Nat
  | a :: b :: c :: d :: rest =>
    match Text.hexNumber? ([a, b, c, d].map (fun x => Char.ofNat x.toNat)) with
    | some n => .ok (n, rest)
    | none => failAt .invalidEscape rest
  | _ => failAt .endOfString []

/-- The second half of a surrogate pair whose first half is `high`. -/
def readLowUnit (high : Nat) : Reader Char
  | [] => failAt .endOfString []
  | 92 :: 117 :: rest => do
    let (low, rest) ← readUnit rest
    if 0xDC00 ≤ low ∧ low ≤ 0xDFFF then
      .ok (Char.ofNat (0x10000 + (high - 0xD800) * 1024 + (low - 0xDC00)), rest)
    else failAt .loneSurrogate rest
  | 92 :: [] => failAt .endOfString []
  | 92 :: _ :: rest => failAt .unfinishedEscape rest
  | _ :: rest => failAt .unfinishedEscape rest

/-- The character that an escape names by its units. -/
def readUnits : Reader Char := fun bytes => do
  let (unit, rest) ← readUnit bytes
  if 0xDC00 ≤ unit ∧ unit ≤ 0xDFFF then failAt .loneSurrogate rest
  else if 0xD800 ≤ unit ∧ unit ≤ 0xDBFF then readLowUnit unit rest
  else .ok (Char.ofNat unit, rest)

/-- The character of an escape, read behind its backslash. -/
def readEscape : Reader Char
  | [] => failAt .endOfString []
  | b :: rest =>
    match Char.ofNat b.toNat with
    | '"' => .ok ('"', rest)
    | '\\' => .ok ('\\', rest)
    | '/' => .ok ('/', rest)
    | 'b' => .ok (Char.ofNat 8, rest)
    | 'f' => .ok (Char.ofNat 12, rest)
    | 'n' => .ok ('\n', rest)
    | 'r' => .ok ('\r', rest)
    | 't' => .ok ('\t', rest)
    | 'u' => readUnits rest
    | _ => failAt .invalidEscape rest

/-- The characters up to the closing quote. `bad` is set once an octet has started
no character, and holds how many octets the string has from that one on, with
escapes resolved. The fault is placed that many octets before the end. -/
def readChars : Nat → Option Nat → Reader (List Char)
  | 0, _, rest => failAt .endOfString rest
  | _ + 1, _, [] => failAt .endOfString []
  | fuel + 1, bad, b :: bs =>
    if b = 34 then
      match bad with
      | some octets => .error ⟨.invalidCharacter, bs.length + octets, []⟩
      | none => .ok ([], bs)
    else if b = 92 then do
      let (c, rest) ← readEscape bs
      let (cs, rest) ← readChars fuel (bad.map (· + c.utf8Size)) rest
      .ok (c :: cs, rest)
    else if b < 32 then failAt .controlCharacter bs
    else
      match Utf8.head? (b :: bs) with
      | some (c, rest) => do
        let (cs, rest) ← readChars fuel (bad.map (· + c.utf8Size)) rest
        .ok (c :: cs, rest)
      | none => readChars fuel (some (bad.getD 0 + 1)) bs

/-- A string, read behind its opening quote. -/
def readText : Reader String := fun bytes => do
  let (cs, rest) ← readChars (bytes.length + 1) none bytes
  .ok (String.ofList cs, rest)

/-- What follows an escape that nobody reads. -/
def skipEscape : Bytes → Except Fault Bytes
  | [] => failAt .endOfString []
  | b :: rest =>
    match Char.ofNat b.toNat with
    | '"' | '\\' | '/' | 'b' | 'f' | 'n' | 'r' | 't' => .ok rest
    | 'u' => (readUnit rest).map Prod.snd
    | _ => failAt .invalidEscape rest

def skipChars : Nat → Bytes → Except Fault Bytes
  | 0, rest => failAt .endOfString rest
  | _ + 1, [] => failAt .endOfString []
  | fuel + 1, b :: bs =>
    if b = 34 then .ok bs
    else if b = 92 then
      match skipEscape bs with
      | .ok rest => skipChars fuel rest
      | .error fault => .error fault
    else if b < 32 then failAt .controlCharacter (b :: bs)
    else skipChars fuel bs

/-- What follows a string that nobody reads, from behind its opening quote. -/
def skipText (bytes : Bytes) : Except Fault Bytes := skipChars (bytes.length + 1) bytes

end BidFleet.Json
