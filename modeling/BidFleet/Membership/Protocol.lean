import BidFleet.Json.Record
import BidFleet.Pool.Store

/-!
The bodies that a store and its clients exchange. A heartbeat names a member and
its score, and each kind of call is answered by an object with one member.
-/

namespace BidFleet.Membership

def jsonType : String := "application/json"

/-- A member to be put into a set. -/
structure Heartbeat where
  member : String
  score : Int64
  deriving DecidableEq, Repr

namespace Heartbeat

def toJson (h : Heartbeat) : Json.Value :=
  .object [("member", .string h.member), ("score", .int h.score.toInt)]

structure Draft where
  member : Option String := none
  score : Option Int64 := none

def record : Json.Record Draft Heartbeat where
  name := "UpsertBody"
  empty := {}
  fields := [
    .of "member" (·.member) (fun d s => { d with member := some s }) Json.Decoder.text false,
    .of "score" (·.score) (fun d n => { d with score := some n }) Json.Decoder.int64 false]
  build d :=
    match d.member, d.score with
    | none, _ => .error "member"
    | _, none => .error "score"
    | some member, some score => .ok ⟨member, score⟩

end Heartbeat

/-- How a record with the single field `field` is read. -/
def single {α : Type} (name field : String) (decoder : Json.Decoder α) :
    Json.Record (Option α) α where
  name := name
  empty := none
  fields := [.of field id (fun _ a => some a) decoder false]
  build
    | some a => .ok a
    | none => .error field

def encodeResult : (c : Pool.Call) → c.Result → Json.Value
  | .upsert .., () => .object [("ok", .bool true)]
  | .range .., names => .object [("members", .array (names.map .string))]
  | .removeRange .., removed => .object [("removed", .int removed)]
  | .remove .., removed => .object [("removed", .bool removed)]

/-- How the body that answers a call is read. -/
def resultDecoder : (c : Pool.Call) → Json.Decoder c.Result
  | .upsert .. => Json.Decoder.map (fun _ => ()) Json.Decoder.value
  | .range .. => (single "MembersBody" "members" (.list Json.Decoder.text)).decoder
  | .removeRange .. =>
    (single "RemovedCount" "removed" (Json.Decoder.map (·.toNat) Json.Decoder.uint64)).decoder
  | .remove .. => (single "RemovedFlag" "removed" Json.Decoder.bool).decoder

end BidFleet.Membership
