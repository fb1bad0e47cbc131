import BidFleet.Json.Value
import BidFleet.Text.Segments
import BidFleet.Decimal.Reading

/-!
Win notices. An exchange reports a won bid by asking for a path behind
`/rtb/win/` whose segments are the exchange, the bid, the price and whatever the
exchange adds. Slashes may be doubled, and a query does not count.
-/

namespace BidFleet.Auction

structure WinNotice where
  exchange : String
  bid : Option String
  price : Option Float
  /-- Further segments, as they came. -/
  extra : List String

namespace WinNotice

/-- Where the segments of a notice begin. -/
def root : List Char := "/rtb/win/".toList

def ofSegments? : List (List Char) → Option WinNotice
  | [] => none
  | [exchange] => some ⟨String.ofList exchange, none, none, []⟩
  | [exchange, bid] => some ⟨String.ofList exchange, some (String.ofList bid), none, []⟩
  | exchange :: bid :: price :: extra =>
    some ⟨String.ofList exchange, some (String.ofList bid), Decimal.read? price,
      extra.map String.ofList⟩

/-- The notice that a target stands for. -/
def ofTarget? (target : List Char) : Option WinNotice :=
  match Text.stripStart? root (Text.before '?' target) with
  | some rest => ofSegments? (Text.segments '/' rest)
  | none => none

def acknowledgement (n : WinNotice) : Json.Value :=
  .ofMembers [
    ("status", .string "ack"),
    ("exchange", .string n.exchange),
    ("bid_id", .ofText? n.bid),
    ("price",
      match n.price with
      | some x => if x.isFinite then .float x else .null
      | none => .null)]

end WinNotice

end BidFleet.Auction
