import BidFleet.Json.Value
import BidFleet.Decimal.Layout
import BidFleet.Text.Integer

/-!
The compact text of a value: no blanks, members in the order they stand in. In
strings only the quote, the backslash and the characters below the blank are
escaped. A float that is not finite has no JSON form and is written as `null`.
-/

namespace BidFleet.Json

/-- A digit of an escape, letters in lower case. -/
def escapeDigit (n : Nat) : Char := Char.ofNat (if n < 10 then 48 + n else 87 + n)

def escapeChar (c : Char) : List Char :=
  if c = '"' then ['\\', '"']
  else if c = '\\' then ['\\', '\\']
  else if c = '\n' then ['\\', 'n']
  else if c = '\r' then ['\\', 'r']
  else if c = '\t' then ['\\', 't']
  else if c.toNat = 8 then ['\\', 'b']
  else if c.toNat = 12 then ['\\', 'f']
  else if c.toNat < 32 then
    ['\\', 'u', '0', '0', escapeDigit (c.toNat / 16), escapeDigit (c.toNat % 16)]
  else [c]

def quote (s : String) : List Char := '"' :: s.toList.flatMap escapeChar ++ ['"']

def Number.write : Number → List Char
  | .int n => Text.integer n
  | .float x => (Decimal.Layout.json.write? x).getD "null".toList

namespace Value

mutual

def write : Value → List Char
  | null => "null".toList
  | bool true => "true".toList
  | bool false => "false".toList
  | number n => n.write
  | string s => quote s
  | array items => '[' :: writeItems items
  | object members => '{' :: writeMembers members

/-- The items of an array and its end. -/
def writeItems : List Value → List Char
  | [] => [']']
  | [v] => write v ++ [']']
  | v :: rest => write v ++ ',' :: writeItems rest

/-- The members of an object and its end. -/
def writeMembers : List (String × Value) → List Char
  | [] => ['}']
  | [(k, v)] => quote k ++ ':' :: write v ++ ['}']
  | (k, v) :: rest => quote k ++ ':' :: write v ++ ',' :: writeMembers rest

end

def compact (value : Value) : String := String.ofList value.write

end Value

end BidFleet.Json
