import BidFleet.Json.Record

/-!
The status of a bidder: its knobs, its counters and its campaigns as they were
read, one after the other.
-/

namespace BidFleet.Serving

structure Snapshot where
  throttle : UInt8
  stopped : Bool
  bids : UInt64
  noBids : UInt64
  campaigns : List String
  uptime : UInt64
  version : String

namespace Snapshot

def currentVersion : String := "0.1.0"

def toJson (s : Snapshot) : Json.Value :=
  .object [("throttle_percent", .int s.throttle.toNat), ("stopped", .bool s.stopped),
    ("bid_count", .int s.bids.toNat), ("no_bid_count", .int s.noBids.toNat),
    ("campaigns", .array (s.campaigns.map .string)), ("uptime_ms", .int s.uptime.toNat),
    ("version", .string s.version)]

structure Draft where
  throttle : Option UInt8 := none
  stopped : Option Bool := none
  bids : Option UInt64 := none
  noBids : Option UInt64 := none
  campaigns : Option (List String) := none
  uptime : Option UInt64 := none
  version : Option String := none

def record : Json.Record Draft Snapshot where
  name := "StatusSnapshot"
  empty := {}
  fields := [
    .of "throttle_percent" (·.throttle) (fun d n => { d with throttle := some n })
      Json.Decoder.uint8 false,
    .of "stopped" (·.stopped) (fun d b => { d with stopped := some b }) Json.Decoder.bool false,
    .of "bid_count" (·.bids) (fun d n => { d with bids := some n }) Json.Decoder.uint64 false,
    .of "no_bid_count" (·.noBids) (fun d n => { d with noBids := some n })
      Json.Decoder.uint64 false,
    .of "campaigns" (·.campaigns) (fun d cs => { d with campaigns := some cs })
      (.list Json.Decoder.text) false,
    .of "uptime_ms" (·.uptime) (fun d n => { d with uptime := some n }) Json.Decoder.uint64 false,
    .of "version" (·.version) (fun d s => { d with version := some s }) Json.Decoder.text false]
  build d :=
    match d.throttle, d.stopped, d.bids, d.noBids, d.campaigns, d.uptime, d.version with
    | none, _, _, _, _, _, _ => .error "throttle_percent"
    | _, none, _, _, _, _, _ => .error "stopped"
    | _, _, none, _, _, _, _ => .error "bid_count"
    | _, _, _, none, _, _, _ => .error "no_bid_count"
    | _, _, _, _, none, _, _ => .error "campaigns"
    | _, _, _, _, _, none, _ => .error "uptime_ms"
    | _, _, _, _, _, _, none => .error "version"
    | some throttle, some stopped, some bids, some noBids, some campaigns, some uptime,
        some version => .ok ⟨throttle, stopped, bids, noBids, campaigns, uptime, version⟩

end Snapshot

end BidFleet.Serving
