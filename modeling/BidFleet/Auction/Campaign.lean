import BidFleet.Auction.Opportunity
import BidFleet.Auction.Decision

/-!
Campaigns and their selection. A campaign bids its fixed price on opportunities
whose floor it reaches and whose payload it agrees with. Of the campaigns that
accept an opportunity the one with the highest price bids, the first of equals.
A selector is all that the serving side knows of campaigns.
-/

namespace BidFleet.Auction

/-- A value that has to stand at a place of the payload. -/
structure Constraint where
  pointer : String
  equals : Json.Value

namespace Constraint

def holds (c : Constraint) (payload : Json.Value) : Bool :=
  match payload.pointer? c.pointer with
  | some v => v.same c.equals
  | none => false

def toJson (c : Constraint) : Json.Value :=
  .object [("pointer", .string c.pointer), ("equals", c.equals)]

structure Draft where
  pointer : Option String := none
  equals : Option Json.Value := none

def record : Json.Record Draft Constraint where
  name := "Constraint"
  empty := {}
  fields := [
    .of "pointer" (·.pointer) (fun d s => { d with pointer := some s }) Json.Decoder.text false,
    .of "equals" (·.equals) (fun d v => { d with equals := some v }) Json.Decoder.value false]
  build d :=
    match d.pointer, d.equals with
    | none, _ => .error "pointer"
    | _, none => .error "equals"
    | some pointer, some equals => .ok ⟨pointer, equals⟩

end Constraint

structure Campaign where
  id : String
  price : Float
  creative : String
  seat : Option String := none
  constraints : List Constraint := []

namespace Campaign

def toJson (c : Campaign) : Json.Value :=
  .object [("id", .string c.id), ("price", .float c.price), ("creative", .string c.creative),
    ("seat", .ofText? c.seat), ("constraints", .array (c.constraints.map Constraint.toJson))]

structure Draft where
  id : Option String := none
  price : Option Float := none
  creative : Option String := none
  seat : Option (Option String) := none
  constraints : Option (List Constraint) := none

/-- How a campaign is read from JSON; the seat and the constraints may be missing. -/
def record : Json.Record Draft Campaign where
  name := "Campaign"
  empty := {}
  fields := [
    .of "id" (·.id) (fun d s => { d with id := some s }) Json.Decoder.text false,
    .of "price" (·.price) (fun d x => { d with price := some x }) Json.Decoder.float false,
    .of "creative" (·.creative) (fun d s => { d with creative := some s }) Json.Decoder.text false,
    .of "seat" (·.seat) (fun d s => { d with seat := some s }) (.optional Json.Decoder.text) true,
    .of "constraints" (·.constraints) (fun d cs => { d with constraints := some cs })
      (.list Constraint.record.decoder) true]
  build d :=
    match d.id, d.price, d.creative with
    | none, _, _ => .error "id"
    | _, none, _ => .error "price"
    | _, _, none => .error "creative"
    | some id, some price, some creative =>
      .ok ⟨id, price, creative, d.seat.getD none, d.constraints.getD []⟩

def accepts (c : Campaign) (o : Opportunity) : Bool :=
  c.price ≥ o.floor && c.constraints.all (fun k => k.holds o.payload)

def bidId (c : Campaign) (o : Opportunity) : String := o.id ++ "-" ++ c.id

def respond (c : Campaign) (o : Opportunity) : Bid where
  campaign := c.id
  price := c.price
  creative := c.creative
  body :=
    .ofMembers [
      ("id", .string o.id),
      ("seatbid", .array [.ofMembers [
        ("seat", .string (c.seat.getD c.id)),
        ("bid", .array [.ofMembers [
          ("id", .string (c.bidId o)),
          ("impid", .string (o.impression?.getD "1")),
          ("price", if c.price.isFinite then .float c.price else .null),
          ("adid", .string c.id),
          ("crid", .string c.creative)]])]]),
      ("cur", .string "USD")]

end Campaign

inductive Selection where
  | bid (bid : Bid)
  | noMatch
  | refused (error : Error)
  | panicked

/-- What the serving side asks of the campaigns. -/
structure Selector where
  count : Nat
  ids : List String
  select : Opportunity → Selection

abbrev Book := List Campaign

namespace Book

/-- Whether the payload has an impression to bid on. -/
def hasImpressions (o : Opportunity) : Bool :=
  match (o.payload.get? "imp").bind Json.Value.asArray? with
  | some (_ :: _) => true
  | _ => false

/-- The better of the best campaign so far and the next one. -/
def better (best : Option Campaign) (c : Campaign) : Option Campaign :=
  match best with
  | some b => if b.price ≥ c.price then some b else some c
  | none => some c

def winner? (book : Book) (o : Opportunity) : Option Campaign :=
  (book.filter (fun c => c.accepts o)).foldl better none

/-- The bid of the winner; an opportunity without impressions is refused. -/
def select (book : Book) (o : Opportunity) : Selection :=
  if hasImpressions o then
    match book.winner? o with
    | some c => .bid (c.respond o)
    | none => .noMatch
  else .refused (.selection ("bid request " ++ o.id ++ " has no impressions"))

def ids (book : Book) : List String := book.map (·.id)

def selector (book : Book) : Selector := ⟨book.length, book.ids, book.select⟩

def decoder : Json.Decoder Book := .list Campaign.record.decoder

def ofFile (content : Bytes) : Except Error Book :=
  match Json.decode decoder content with
  | .ok book => .ok book
  | .error fault => .error (.malformedJson (fault.report content))

end Book

end BidFleet.Auction
