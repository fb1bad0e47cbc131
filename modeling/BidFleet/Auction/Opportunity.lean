import BidFleet.Json.Pointer
import BidFleet.Json.Record
import BidFleet.Error

/-!
Bid opportunities. An exchange posts a request to bid; an adapter for the
exchange turns it into an opportunity, which keeps the whole request as its
payload. The registry holds one adapter a name, the latest one registered.
-/

namespace BidFleet.Auction

structure Opportunity where
  id : String
  exchange : String
  payload : Json.Value

namespace Opportunity

/-- The floor price of the first impression, zero when the exchange sent none. -/
def floor (o : Opportunity) : Float :=
  ((o.payload.pointer? "/imp/0/bidfloor").bind Json.Value.asFloat?).getD 0.0

/-- The identifier of the first impression. -/
def impression? (o : Opportunity) : Option String :=
  (o.payload.pointer? "/imp/0/id").bind Json.Value.asText?

section

variable {o : Opportunity} {first : Json.Value} {others : List Json.Value}

theorem follow?_first (h : o.payload.get? "imp" = some (.array (first :: others))) {key : String}
    (hkey : Json.Pointer.place? key.toList = none) :
    o.payload.follow? ["imp".toList, "0".toList, key.toList] = first.get? key := by
  have hobject : ∃ members, o.payload = .object members := by
    cases hpayload : o.payload with
    | object members => exact ⟨members, rfl⟩
    | null | bool | number | string | array => rw [hpayload] at h; cases h
  obtain ⟨members, hmembers⟩ := hobject
  have hplace : Json.Pointer.place? "0".toList = some 0 := by decide
  have himp : o.payload.step? "imp".toList = some (.array (first :: others)) := by
    rw [hmembers, Json.Value.step?, String.ofList_toList, ← hmembers, h]
  have hfirst : (Json.Value.array (first :: others)).step? "0".toList = some first := by
    rw [Json.Value.step?, hplace]
    rfl
  have hstep : first.step? key.toList = first.get? key := by
    cases first with
    | object => rw [Json.Value.step?, String.ofList_toList]
    | array => rw [Json.Value.step?, hkey]; rfl
    | null | bool | number | string => rfl
  simp only [Json.Value.follow?, himp, hfirst, hstep]
  cases first.get? key <;> rfl

/-- The floor of an opportunity is the number behind `bidfloor` in its first impression. -/
theorem floor_of_first (h : o.payload.get? "imp" = some (.array (first :: others))) :
    o.floor =
      match first.get? "bidfloor" with
      | some (.number (.int i)) => Float.ofInt i
      | some (.number (.float x)) => x
      | _ => 0.0 := by
  have htokens : Json.Pointer.tokens? "/imp/0/bidfloor" =
      some ["imp".toList, "0".toList, "bidfloor".toList] := by decide
  rw [floor, Json.Value.pointer?, htokens, Option.bind_some, follow?_first h (by decide)]
  cases first.get? "bidfloor" with
  | none => rfl
  | some v =>
    cases v with
    | number n =>
      cases n with
      | int i => cases i <;> rfl
      | float x => rfl
    | null | bool | string | array | object => rfl

theorem impression?_of_first (h : o.payload.get? "imp" = some (.array (first :: others))) :
    o.impression? = (first.get? "id").bind Json.Value.asText? := by
  have htokens : Json.Pointer.tokens? "/imp/0/id" =
      some ["imp".toList, "0".toList, "id".toList] := by decide
  rw [impression?, Json.Value.pointer?, htokens, Option.bind_some, follow?_first h (by decide)]

end

def toJson (o : Opportunity) : Json.Value :=
  .object [("id", .string o.id), ("exchange", .string o.exchange), ("payload", o.payload)]

structure Draft where
  id : Option String := none
  exchange : Option String := none
  payload : Option Json.Value := none

def record : Json.Record Draft Opportunity where
  name := "BidOpportunity"
  empty := {}
  fields := [
    .of "id" (·.id) (fun d s => { d with id := some s }) Json.Decoder.text false,
    .of "exchange" (·.exchange) (fun d s => { d with exchange := some s }) Json.Decoder.text false,
    .of "payload" (·.payload) (fun d v => { d with payload := some v }) Json.Decoder.value false]
  build d :=
    match d.id, d.exchange, d.payload with
    | none, _, _ => .error "id"
    | _, none, _ => .error "exchange"
    | _, _, none => .error "payload"
    | some id, some exchange, some payload => .ok ⟨id, exchange, payload⟩

end Opportunity

/-- An adapter reads the requests of the exchange it is named for. -/
structure Adapter where
  name : String
  parse : Bytes → Except Error Opportunity

namespace Adapter

/-- The adapter of an exchange that posts plain JSON objects with an `id`. -/
def plain (name : String) : Adapter where
  name := name
  parse body :=
    match Json.parse body with
    | .error fault => .error (.malformedBid (name ++ " bid request: " ++ fault.report body))
    | .ok payload =>
      match (payload.get? "id").bind Json.Value.asText? with
      | some id =>
        if id.isEmpty then .error (.malformedBid (name ++ " bid request without an id"))
        else .ok ⟨id, name, payload⟩
      | none => .error (.malformedBid (name ++ " bid request without an id"))

end Adapter

/-- The adapters, at most one a name. -/
structure Registry where
  adapters : List Adapter := []

namespace Registry

/-- Puts an adapter under its name, in place of any other. -/
def register (r : Registry) (a : Adapter) : Registry :=
  ⟨a :: r.adapters.filter (fun b => b.name != a.name)⟩

def get? (r : Registry) (exchange : String) : Option Adapter :=
  r.adapters.find? (fun a => a.name == exchange)

/-- The exchange that is served without being asked for. -/
def defaultExchange : String := "nexage"

def default : Registry := ({} : Registry).register (.plain defaultExchange)

end Registry

end BidFleet.Auction
