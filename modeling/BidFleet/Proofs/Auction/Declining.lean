import BidFleet.Proofs.Json.Records
import BidFleet.Serving.Dispatch

/-!
The text of a no-bid. It is written in two ways, field by field and as an object with its
members in the order of their keys, and both give the same text (`toJson_noBid`). The
record is read back from it whatever characters the texts in it have (`decode_noBid`), so
different no-bids have different bodies (`noBid_wire`).
-/

namespace BidFleet.Auction

open Json
open Serving (Reply)

/-- The fields of a no-bid stand in the order of their keys. -/
theorem toJson_noBid (n : NoBid) : (Decision.noBid n).toJson = n.toJson := by
  have hkeys : "id" < "reason" := by decide
  exact congrArg Value.object (sorted_of_pairwise (List.pairwise_pair.mpr hkeys))

theorem reads_noBid (n : NoBid) (depth : Nat) :
    Reads (NoBid.record.decoder (depth + 1)) n.toJson n := by
  have hid : NoBid.record.fields.find? (fun f => f.name == "id") =
      some (.of "id" (·.id) (fun d s => { d with id := some s }) Decoder.text false) := by
    simp [NoBid.record, Field.of]
  have hreason : NoBid.record.fields.find? (fun f => f.name == "reason") =
      some (.of "reason" (·.reason) (fun d s => { d with reason := some s })
        Decoder.text false) := by
    simp [NoBid.record, Field.of]
  have hfills : NoBid.record.Fills depth [("id", .string n.id), ("reason", .string n.reason)]
      {} ⟨some n.id, some n.reason⟩ :=
    .cons hid rfl (Field.fill_of (reads_text n.id depth))
      (.cons hreason rfl (Field.fill_of (reads_text n.reason depth)) (.nil _))
  exact Record.reads_object hfills rfl

/-- **No-bids survive their JSON.** -/
theorem decode_noBid (n : NoBid) :
    decode NoBid.record.decoder (Utf8.encode n.toJson.compact) = .ok n :=
  decode_of_reads (reads_noBid n 126)

/-- The text of a no-bid tells which one it is. -/
theorem noBid_of_compact {m n : NoBid}
    (h : Utf8.encode m.toJson.compact = Utf8.encode n.toJson.compact) : m = n := by
  have hdecoded := congrArg (decode NoBid.record.decoder) h
  rw [decode_noBid, decode_noBid] at hdecoded
  exact Except.ok.inj hdecoded

/-- **The text of a no-bid.** Whatever its texts hold, the body of a decision not to bid is
octet by octet the record of the no-bid; the record is read back from it unchanged, and two
such decisions are answered with the same body only if they are the same no-bid. -/
theorem noBid_wire (n : NoBid) :
    (Decision.noBid n).toJson.compact = n.toJson.compact ∧
      decode NoBid.record.decoder (Utf8.encode (Decision.noBid n).toJson.compact) = .ok n ∧
      ∀ (m : NoBid) (t u : UInt64),
        (Reply.decision (.noBid m) t).body = (Reply.decision (.noBid n) u).body ↔ m = n := by
  refine ⟨congrArg Value.compact (toJson_noBid n), ?_, fun m t u => ⟨fun h => ?_, fun h => ?_⟩⟩
  · rw [toJson_noBid]
    exact decode_noBid n
  · simp only [Reply.decision, toJson_noBid] at h
    exact noBid_of_compact h
  · rw [h]
    rfl

/-- Quotes, backslashes and control characters are escaped, and nothing else. -/
example : (Decision.decline "a\"\\" "\n\x01 é/").toJson.compact =
    "\x7b\"id\":\"a\\\"\\\\\",\"reason\":\"\\n\\u0001 é/\"\x7d" := by decide +kernel

end BidFleet.Auction
