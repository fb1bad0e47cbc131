import BidFleet.Membership.Client
import BidFleet.Membership.Server
import BidFleet.Proofs.Json.Records

/-!
The bodies between a store and its clients. A heartbeat is read from its own
JSON, and so is the result of every call, as long as counts keep to 64 bits.
-/

namespace BidFleet.Membership

open Json
open Utf8 (encodeChars)

/-! ## Records -/

/-- An object with the one field of a record is read as the record. -/
theorem decode_single {α : Type} (name field : String) {decoder : Decoder α} {v : Value} {a : α}
    (h : Reads (decoder 126) v a) :
    decode (single name field decoder).decoder
      (Utf8.encode (Value.object [(field, v)]).compact) = .ok a := by
  have hfield : (single name field decoder).fields.find? (fun f => f.name == field) =
      some (.of field id (fun _ a => some a) decoder false) := by
    simp [single, Field.of]
  exact decode_of_reads (Record.reads_object (.cons hfield rfl (Field.fill_of h) (.nil _)) rfl)

theorem reads_int64 (n : Int64) (depth : Nat) : Reads (Decoder.int64 depth) (.int n.toInt) n :=
  fun _ hrest => int64_integer n depth hrest

/-- **Heartbeats survive their JSON.** -/
theorem decode_heartbeat (h : Heartbeat) :
    decodeFront Heartbeat.record.decoder (Utf8.encode h.toJson.compact) = .ok h := by
  have hmember : Heartbeat.record.fields.find? (fun f => f.name == "member") =
      some (.of "member" (·.member) (fun d s => { d with member := some s })
        Decoder.text false) := by
    simp [Heartbeat.record, Field.of]
  have hscore : Heartbeat.record.fields.find? (fun f => f.name == "score") =
      some (.of "score" (·.score) (fun d n => { d with score := some n })
        Decoder.int64 false) := by
    simp [Heartbeat.record, Field.of]
  have hfills : Heartbeat.record.Fills 126
      [("member", .string h.member), ("score", .int h.score.toInt)] {}
      ⟨some h.member, some h.score⟩ :=
    .cons hmember rfl (Field.fill_of (reads_text h.member 126))
      (.cons hscore rfl (Field.fill_of (reads_int64 h.score 126)) (.nil _))
  exact decodeFront_of_reads (Record.reads_object hfills rfl)

/-! ## Results -/

/-- Whether a result can go into a body: counts are 64-bit numbers there. -/
def Fits : (c : Pool.Call) → c.Result → Prop
  | .removeRange .., removed => removed < UInt64.size
  | _, _ => True

/-- The answer to a heartbeat is read, and its value does not matter. -/
theorem readValue_done : ∃ v, readValue 127
    (encodeChars (Value.object [("ok", .bool true)]).write) = .ok (v, []) := by
  have hmembers : MembersRead (readValue 126) [("ok", .bool true)] [("ok", .bool true)] :=
    .cons ⟨rfl, readValue_bool 126 true⟩ .nil
  have hread := readValue_members hmembers (List.pairwise_singleton ..) [] numberEnds_nil
  rw [List.append_nil] at hread
  exact ⟨_, hread⟩

/-- **Results survive their JSON.** -/
theorem decode_result (c : Pool.Call) (r : c.Result) (h : Fits c r) :
    decode (resultDecoder c) (Utf8.encode (encodeResult c r).compact) = .ok r := by
  cases c with
  | upsert set member score =>
    obtain ⟨v, hread⟩ := readValue_done
    rw [encodeResult, encode_compact]
    simp only [decode, resultDecoder, depthLimit, Decoder.map, Decoder.value, hread, Except.map,
      bind, Except.bind]
    rfl
  | range set low high =>
    exact decode_single _ _ (fun rest _ => list_texts r 125 rest)
  | removeRange set low high =>
    refine decode_single _ _ (fun rest hrest => ?_)
    have hread := uint64_natural h 126 hrest
    simp only [Value.int, Value.write, Number.write, Decoder.map, hread, Except.map]
    exact congrArg (fun n => Except.ok (n, rest)) (UInt64.toNat_ofNat_of_lt h)
  | remove set member =>
    refine decode_single _ _ (fun rest hrest => ?_)
    cases r <;> rfl

end BidFleet.Membership
