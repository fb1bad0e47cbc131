import BidFleet.Text.Segments
import BidFleet.Text.Integer

/-!
Internet addresses. Four octets without leading zeros, or eight groups of which
one run of zeros may be left out; a socket address adds a port, and a group
address in brackets may carry a scope.
-/

namespace BidFleet.Http

structure Ipv4 where
  octets : List Nat
  deriving DecidableEq, Repr

structure Ipv6 where
  groups : List Nat
  deriving DecidableEq, Repr

namespace Ipv4

/-- An octet of one to three digits. -/
def readOctet? (text : List Char) : Option Nat :=
  match text with
  | [] => none
  | '0' :: _ :: _ => none
  | _ =>
    if text.length > 3 ∨ !text.all Char.isDigit then none
    else
      match Text.readNatural 255 text with
      | .ok n => some n
      | .error _ => none

def read? (text : List Char) : Option Ipv4 :=
  match (Text.split '.' text).mapM readOctet? with
  | some [a, b, c, d] => some ⟨[a, b, c, d]⟩
  | _ => none

def text (a : Ipv4) : List Char := Text.join '.' (a.octets.map Text.natural)

/-- The two groups that the octets fill. -/
def groups (a : Ipv4) : List Nat :=
  match a.octets with
  | [a, b, c, d] => [a * 256 + b, c * 256 + d]
  | _ => []

end Ipv4

namespace Ipv6

/-- A group of one to four hexadecimal digits. -/
def readGroup? (text : List Char) : Option Nat :=
  if text.isEmpty ∨ text.length > 4 then none else Text.hexNumber? text

/-- Groups between colons; where `last` is set the last one may be an address of
four octets. -/
def readGroups? (last : Bool) : List (List Char) → Option (List Nat)
  | [] => some []
  | [piece] =>
    if last && piece.contains '.' then (Ipv4.read? piece).map Ipv4.groups
    else (readGroup? piece).map (fun g => [g])
  | piece :: pieces =>
    match readGroup? piece, readGroups? last pieces with
    | some g, some gs => some (g :: gs)
    | _, _ => none

/-- The groups of one side of a double colon. -/
def readSide? (last : Bool) (text : List Char) : Option (List Nat) :=
  if text.isEmpty then some [] else readGroups? last (Text.split ':' text)

def read? (text : List Char) : Option Ipv6 :=
  match Text.afterWord? [':', ':'] text with
  | none =>
    match readGroups? true (Text.split ':' text) with
    | some groups => if groups.length = 8 then some ⟨groups⟩ else none
    | none => none
  | some right =>
    let left := text.take (text.length - right.length - 2)
    match readSide? false left, readSide? true right with
    | some front, some back =>
      if front.length + back.length ≤ 7 then
        some ⟨front ++ List.replicate (8 - front.length - back.length) 0 ++ back⟩
      else none
    | _, _ => none

def hex (n : Nat) : List Char := Nat.toDigits 16 n

def zeros (groups : List Nat) : Nat := (groups.takeWhile (· == 0)).length

/-- The longest run of at least two zeros, the first of equals: where it starts
and how long it is. -/
def longestRun (groups : List Nat) : Nat → Option (Nat × Nat)
  | 0 => none
  | n + 1 =>
    let here := zeros (groups.drop n)
    match longestRun groups n with
    | some (start, length) => if here > length then some (n, here) else some (start, length)
    | none => if here ≥ 2 then some (n, here) else none

/-- The groups, with the longest run of zeros left out. -/
def groupText (a : Ipv6) : List Char :=
  let write (gs : List Nat) := Text.join ':' (gs.map hex)
  match longestRun a.groups a.groups.length with
  | some (start, length) =>
    write (a.groups.take start) ++ [':', ':'] ++ write (a.groups.drop (start + length))
  | none => write a.groups

/-- The text of an address; one that stands for four octets shows them. -/
def text (a : Ipv6) : List Char :=
  match a.groups with
  | [0, 0, 0, 0, 0, 0xffff, x, y] =>
    "::ffff:".toList ++ Ipv4.text ⟨[x / 256, x % 256, y / 256, y % 256]⟩
  | _ => a.groupText

end Ipv6

inductive SocketAddress where
  | v4 (ip : Ipv4) (port : Nat)
  | v6 (ip : Ipv6) (scope : Nat) (port : Nat)
  deriving DecidableEq, Repr

namespace SocketAddress

def port : SocketAddress → Nat
  | v4 _ port | v6 _ _ port => port

/-- Digits that make up a number within a bound. -/
def readDecimal? (bound : Nat) (text : List Char) : Option Nat :=
  if text.isEmpty ∨ !text.all Char.isDigit then none
  else
    match Text.readNatural bound text with
    | .ok n => some n
    | .error _ => none

def readPort? (text : List Char) : Option Nat := readDecimal? 65535 text

/-- The inside of brackets: an address and, behind `%`, a scope. -/
def readScoped? (inside : List Char) : Option (Ipv6 × Nat) :=
  match Ipv6.read? (Text.before '%' inside), Text.after? '%' inside with
  | some ip, none => some (ip, 0)
  | some ip, some scope => (readDecimal? (UInt32.size - 1) scope).map (fun n => (ip, n))
  | none, _ => none

def read? (text : List Char) : Option SocketAddress :=
  match text with
  | '[' :: rest =>
    match Text.after? ']' rest with
    | some (':' :: digits) =>
      match readScoped? (Text.before ']' rest), readPort? digits with
      | some (ip, scope), some port => some (v6 ip scope port)
      | _, _ => none
    | _ => none
  | _ =>
    match Text.after? ':' text with
    | some digits =>
      match Ipv4.read? (Text.before ':' text), readPort? digits with
      | some ip, some port => some (v4 ip port)
      | _, _ => none
    | none => none

def text : SocketAddress → String
  | v4 ip port => String.ofList (ip.text ++ ':' :: Text.natural port)
  | v6 ip scope port =>
    let suffix := if scope = 0 then [] else '%' :: Text.natural scope
    String.ofList ('[' :: ip.text ++ suffix ++ ']' :: ':' :: Text.natural port)

end SocketAddress

end BidFleet.Http
