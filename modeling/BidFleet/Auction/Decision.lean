import BidFleet.Json.Record

/-!
Decisions. Every opportunity is answered by exactly one: a bid, whose body goes
to the exchange as it is, or a no-bid, which names the opportunity and says why.
-/

namespace BidFleet.Auction

structure Bid where
  campaign : String
  price : Float
  creative : String
  body : Json.Value

namespace Bid

def toJson (b : Bid) : Json.Value :=
  .object [("campaign_id", .string b.campaign), ("price", .float b.price),
    ("creative", .string b.creative), ("body", b.body)]

structure Draft where
  campaign : Option String := none
  price : Option Float := none
  creative : Option String := none
  body : Option Json.Value := none

def record : Json.Record Draft Bid where
  name := "BidResponse"
  empty := {}
  fields := [
    .of "campaign_id" (·.campaign) (fun d s => { d with campaign := some s })
      Json.Decoder.text false,
    .of "price" (·.price) (fun d x => { d with price := some x }) Json.Decoder.float false,
    .of "creative" (·.creative) (fun d s => { d with creative := some s }) Json.Decoder.text false,
    .of "body" (·.body) (fun d v => { d with body := some v }) Json.Decoder.value false]
  build d :=
    match d.campaign, d.price, d.creative, d.body with
    | none, _, _, _ => .error "campaign_id"
    | _, none, _, _ => .error "price"
    | _, _, none, _ => .error "creative"
    | _, _, _, none => .error "body"
    | some campaign, some price, some creative, some body =>
      .ok ⟨campaign, price, creative, body⟩

end Bid

structure NoBid where
  id : String
  reason : String
  deriving DecidableEq, Repr

namespace NoBid

def toJson (n : NoBid) : Json.Value :=
  .object [("id", .string n.id), ("reason", .string n.reason)]

structure Draft where
  id : Option String := none
  reason : Option String := none

def record : Json.Record Draft NoBid where
  name := "NoBid"
  empty := {}
  fields := [
    .of "id" (·.id) (fun d s => { d with id := some s }) Json.Decoder.text false,
    .of "reason" (·.reason) (fun d s => { d with reason := some s }) Json.Decoder.text false]
  build d :=
    match d.id, d.reason with
    | none, _ => .error "id"
    | _, none => .error "reason"
    | some id, some reason => .ok ⟨id, reason⟩

end NoBid

inductive Decision where
  | bid (bid : Bid)
  | noBid (noBid : NoBid)

namespace Decision

/-- The decision not to bid on `id`. -/
def decline (id reason : String) : Decision := noBid ⟨id, reason⟩

def isBid : Decision → Bool
  | bid _ => true
  | noBid _ => false

def reason? : Decision → Option String
  | bid _ => none
  | noBid n => some n.reason

def status : Decision → Nat
  | bid _ => 200
  | noBid _ => 204

/-- The body of the answer, its members ordered by key. -/
def toJson : Decision → Json.Value
  | bid b => b.body
  | noBid n => .ofMembers [("id", .string n.id), ("reason", .string n.reason)]

end Decision

end BidFleet.Auction
