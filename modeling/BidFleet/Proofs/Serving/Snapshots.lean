import BidFleet.Proofs.Json.Values
import BidFleet.Serving.Snapshot

/-!
The status of a bidder on the wire. Any reader of JSON finds the knobs, the counters, the
campaigns, the time and the version under their names, and nothing else (`parse_toJson`);
the reader of snapshots has the snapshot back (`decode_toJson`).
-/

namespace BidFleet.Serving.Snapshot

open Json

/-- The members of a status, in the order in which they are written. -/
def written (s : Snapshot) : List (String × Value) := [
  ("throttle_percent", .int s.throttle.toNat), ("stopped", .bool s.stopped),
  ("bid_count", .int s.bids.toNat), ("no_bid_count", .int s.noBids.toNat),
  ("campaigns", .array (s.campaigns.map .string)), ("uptime_ms", .int s.uptime.toNat),
  ("version", .string s.version)]

/-- The same in the order of the keys, in which a reader has them. -/
def members (s : Snapshot) : List (String × Value) := [
  ("bid_count", .int s.bids.toNat), ("campaigns", .array (s.campaigns.map .string)),
  ("no_bid_count", .int s.noBids.toNat), ("stopped", .bool s.stopped),
  ("throttle_percent", .int s.throttle.toNat), ("uptime_ms", .int s.uptime.toNat),
  ("version", .string s.version)]

theorem reads_natural {n : Nat} (h : n < UInt64.size) (depth : Nat) :
    Reads (readValue depth) (.int n) (.int n) := by
  have hsize : UInt64.size = 18446744073709551616 := rfl
  have hlimit : significandLimit = 18446744073709551615 := by decide
  exact fun rest hrest =>
    readValue_number _ (readNumber_integer (i := n) (by omega) (by omega) hrest)

theorem reads_names (names : List String) (depth : Nat) :
    Reads (readValue (depth + 1)) (.array (names.map .string)) (.array (names.map .string)) := by
  refine readValue_list (List.forall₂_same.mpr fun v hv => ?_)
  obtain ⟨name, -, rfl⟩ := List.mem_map.mp hv
  exact readValue_string depth name

theorem written_read (s : Snapshot) :
    MembersRead (readValue (depthLimit - 1)) s.written s.written := by
  have hthrottle : s.throttle.toNat < UInt64.size := Nat.lt_trans s.throttle.toNat_lt (by decide)
  exact .cons ⟨rfl, reads_natural hthrottle _⟩ <|
    .cons ⟨rfl, readValue_bool _ s.stopped⟩ <|
    .cons ⟨rfl, reads_natural s.bids.toNat_lt _⟩ <|
    .cons ⟨rfl, reads_natural s.noBids.toNat_lt _⟩ <|
    .cons ⟨rfl, reads_names s.campaigns 125⟩ <|
    .cons ⟨rfl, reads_natural s.uptime.toNat_lt _⟩ <|
    .cons ⟨rfl, readValue_string _ s.version⟩ .nil

/-- **A status is read as its members.** -/
theorem parse_toJson (s : Snapshot) :
    parse (Utf8.encode s.toJson.compact) = .ok (.object s.members) := by
  have hsorted : Value.ofMembers s.written = .object s.members := by
    simp only [written, members, Value.ofMembers, Value.insert, List.foldl_cons, List.foldl_nil,
      String.reduceEq, String.reduceLT, if_true, if_false]
  exact (objectText_compact s.written_read).parse.trans (congrArg Except.ok hsorted)

theorem reads_uint8 (n : UInt8) (depth : Nat) :
    Reads (Decoder.uint8 depth) (.int n.toNat) n := by
  have hbound : (n.toNat : Int) ≤ 255 := by
    have := n.toNat_lt
    omega
  intro rest hrest
  have hread : Decoder.integer "u8" 0 255 depth
      (Utf8.encodeChars (Text.integer n.toNat) ++ rest) = .ok ((n.toNat : Int), rest) :=
    integer_decoder "u8" (by omega) hbound (by decide) (by decide) depth hrest
  simp only [Value.int, Value.write, Number.write, Decoder.uint8, Decoder.map, hread, Except.map,
    Int.toNat_natCast, UInt8.ofNat_toNat]

theorem reads_uint64 (n : UInt64) (depth : Nat) :
    Reads (Decoder.uint64 depth) (.int n.toNat) n := by
  intro rest hrest
  have hread := uint64_natural n.toNat_lt depth hrest
  rwa [UInt64.ofNat_toNat] at hread

theorem reads_bool (b : Bool) (depth : Nat) : Reads (Decoder.bool depth) (.bool b) b := by
  intro rest _
  cases b <;> rfl

/-- **Snapshots survive their JSON.** -/
theorem decode_toJson (s : Snapshot) :
    decode record.decoder (Utf8.encode s.toJson.compact) = .ok s := by
  have hfills : record.Fills 126 s.written record.empty
      ⟨some s.throttle, some s.stopped, some s.bids, some s.noBids, some s.campaigns,
        some s.uptime, some s.version⟩ :=
    .cons rfl rfl (Field.fill_of (reads_uint8 s.throttle 126)) <|
      .cons rfl rfl (Field.fill_of (reads_bool s.stopped 126)) <|
      .cons rfl rfl (Field.fill_of (reads_uint64 s.bids 126)) <|
      .cons rfl rfl (Field.fill_of (reads_uint64 s.noBids 126)) <|
      .cons rfl rfl (Field.fill_of fun rest _ => list_texts s.campaigns 125 rest) <|
      .cons rfl rfl (Field.fill_of (reads_uint64 s.uptime 126)) <|
      .cons rfl rfl (Field.fill_of (reads_text s.version 126)) (.nil _)
  exact decode_of_reads (Record.reads_object hfills rfl)

end BidFleet.Serving.Snapshot
