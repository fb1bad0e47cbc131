import BidFleet.Proofs.Json.Members
import BidFleet.Proofs.Json.Sequences

/-!
Records and values, written and read. A record is read member by member: each one
that the record knows fills its field, and the closing brace finishes the draft. So a
record comes back from the object that has just its fields (`Record.reads_object`).
Words and texts are read as they were written, an object is read when its members are
(`readValue_members`), and a list of texts survives its brackets (`list_texts`).
-/

namespace BidFleet.Json

open Utf8 (encodeChars)

theorem encode_compact (v : Value) : Utf8.encode v.compact = encodeChars v.write := by
  rw [Utf8.encode, Value.compact, String.toList_ofList]

/-! ## Members of records -/

/-- A field is filled with what its decoder reads. -/
theorem Field.fill_of {δ α : Type} {name : String} {get : δ → Option α} {set : δ → α → δ}
    {decoder : Decoder α} {optional : Bool} {draft : δ} {depth : Nat} {v : Value} {a : α}
    (h : Reads (decoder depth) v a) :
    Reads ((Field.of name get set decoder optional).fill draft depth) v (set draft a) := by
  intro rest hrest
  simp only [Field.of, Decoder.map, h rest hrest, Except.map]

namespace Record

variable {δ α : Type} {record : Record δ α}

/-- One member that the record knows. -/
theorem readMembers_member {depth fuel : Nat} {first : Bool} {draft draft' : δ} {key : String}
    {field : Field δ} {input bytes rest : Bytes}
    (hmore : moreMembers first input = .ok (true, 34 :: (quotedTail key ++ 58 :: bytes)))
    (hfield : record.fields.find? (fun f => f.name == key) = some field)
    (hfilled : field.filled draft = false)
    (hfill : field.fill draft depth bytes = .ok (draft', rest)) :
    record.readMembers depth (fuel + 1) first draft input =
      record.readMembers depth fuel false draft' rest := by
  have hkey : readText (quotedTail key ++ 58 :: bytes) = .ok (key, 58 :: bytes) :=
    readText_quotedTail key _
  have hcolon : readColon (58 :: bytes) = .ok bytes := rfl
  simp [readMembers, hmore, placed, hkey, hfield, hfilled, hcolon, inside, hfill, bind, Except.bind]

/-- The closing brace. -/
theorem readMembers_end {depth fuel : Nat} {first : Bool} {draft : δ} {a : α} {rest : Bytes}
    (hbuild : record.build draft = .ok a) :
    record.readMembers depth (fuel + 1) first draft (125 :: rest) = .ok (a, 125 :: rest) := by
  have hmore : moreMembers first (125 :: rest) = .ok (false, 125 :: rest) := rfl
  simp [readMembers, hmore, placed, finish, hbuild, bind, Except.bind]

/-- A record whose members are read is read with its braces. -/
theorem decoder_braces {depth : Nat} {a : α} {bytes rest : Bytes}
    (h : record.readMembers depth (bytes.length + 1) true record.empty bytes =
      .ok (a, 125 :: rest)) : record.decoder (depth + 1) (123 :: bytes) = .ok (a, rest) := by
  have hblank : skipBlanks (123 :: bytes) = 123 :: bytes := rfl
  have hend : endMembers (125 :: rest) = (.ok (), rest) := rfl
  have hopen : (123 : UInt8) ≠ 91 := by decide
  simp only [decoder, hblank, if_neg hopen, if_true, h, close, hend]

/-- Members that fill fields of a record one after the other, and what they make of a
draft. -/
inductive Fills (record : Record δ α) (depth : Nat) : List (String × Value) → δ → δ → Prop
  | nil (draft : δ) : Fills record depth [] draft draft
  | cons {key : String} {v : Value} {ms : List (String × Value)} {field : Field δ}
      {draft draft' last : δ} (known : record.fields.find? (fun f => f.name == key) = some field)
      (free : field.filled draft = false) (reads : Reads (field.fill draft depth) v draft')
      (more : Fills record depth ms draft' last) : Fills record depth ((key, v) :: ms) draft last

/-- Members that fill the fields are read with the end of their object. -/
theorem readMembers_fills {depth fuel : Nat} {first : Bool} {draft last : δ} {a : α}
    {ms : List (String × Value)} (h : record.Fills depth ms draft last)
    (hbuild : record.build last = .ok a) (hfuel : ms.length < fuel) (rest : Bytes) :
    record.readMembers depth fuel first draft
        (comma first ms ++ (encodeChars (Value.writeMembers ms) ++ rest)) =
      .ok (a, 125 :: rest) := by
  induction h generalizing fuel first with
  | nil draft =>
    obtain ⟨fuel, rfl⟩ : ∃ k, fuel = k + 1 := ⟨fuel - 1, by omega⟩
    cases first <;> exact readMembers_end hbuild
  | @cons key v ms field draft draft' last known free reads _ ih =>
    rw [List.length_cons] at hfuel
    obtain ⟨fuel, rfl⟩ : ∃ k, fuel = k + 1 := ⟨fuel - 1, by omega⟩
    have hmore (bytes : Bytes) :
        moreMembers first (comma first ((key, v) :: ms) ++ 34 :: (quotedTail key ++ 58 :: bytes)) =
          .ok (true, 34 :: (quotedTail key ++ 58 :: bytes)) := by cases first <;> rfl
    rw [writeMembers_cons, List.cons_append, List.append_assoc, List.cons_append,
      List.append_assoc, List.append_assoc,
      readMembers_member (hmore _) known free (reads _ (numberEnds_members ms rest))]
    exact ih hbuild (by omega)

/-- **A record is read from the object that its members are written as.** -/
theorem reads_object {depth : Nat} {last : δ} {a : α} {ms : List (String × Value)}
    (h : record.Fills depth ms record.empty last) (hbuild : record.build last = .ok a) :
    Reads (record.decoder (depth + 1)) (.object ms) a := by
  intro rest _
  rw [Value.write, Utf8.encodeChars_cons, Utf8.utf8EncodeChar_ascii (by decide)]
  exact decoder_braces (readMembers_fills h hbuild (fuel_members ms rest) rest)

end Record

/-! ## Bodies -/

/-- What is read in front of any rest is read from a body of its own. -/
theorem decode_of_reads {α : Type} {decoder : Decoder α} {v : Value} {a : α}
    (h : Reads (decoder depthLimit) v a) : decode decoder (Utf8.encode v.compact) = .ok a := by
  have hread := h [] numberEnds_nil
  rw [List.append_nil] at hread
  rw [decode, encode_compact, hread]
  rfl

theorem decodeFront_of_reads {α : Type} {decoder : Decoder α} {v : Value} {a : α}
    (h : Reads (decoder depthLimit) v a) :
    decodeFront decoder (Utf8.encode v.compact) = .ok a := by
  have hread := h [] numberEnds_nil
  rw [List.append_nil] at hread
  rw [decodeFront, encode_compact, hread]
  rfl

theorem parse_of_reads {v w : Value} (h : Reads (readValue depthLimit) v w) :
    parse (Utf8.encode v.compact) = .ok w := by
  show decode Decoder.value (Utf8.encode v.compact) = .ok w
  exact decode_of_reads h

/-! ## Words and texts -/

/-- At every depth texts, words and numbers are read alike. -/
theorem readValue_eq (depth : Nat) :
    ∃ list object, readValue depth = readValueWith list object := by
  cases depth with
  | zero => exact ⟨_, _, rfl⟩
  | succ depth => exact ⟨_, _, rfl⟩

theorem readValue_null (depth : Nat) : Reads (readValue depth) .null .null := by
  obtain ⟨list, object, hread⟩ := readValue_eq depth
  intro rest _
  rw [hread]
  rfl

theorem readValue_bool (depth : Nat) (b : Bool) : Reads (readValue depth) (.bool b) (.bool b) := by
  obtain ⟨list, object, hread⟩ := readValue_eq depth
  intro rest _
  rw [hread]
  cases b <;> rfl

theorem readValue_string (depth : Nat) (s : String) :
    Reads (readValue depth) (.string s) (.string s) := by
  obtain ⟨list, object, hread⟩ := readValue_eq depth
  intro rest _
  rw [hread, Value.write, encodeChars_quote, List.cons_append]
  show (readText (quotedTail s ++ rest)).map _ = _
  rw [readText_quotedTail]
  rfl

theorem reads_text (s : String) (depth : Nat) :
    Reads (Decoder.text depth) (.string s) s := by
  intro rest _
  rw [Value.write, encodeChars_quote]
  exact text_quotedTail s depth rest

/-! ## Objects and lists -/

theorem readValue_members {depth : Nat} {ms ms' : List (String × Value)}
    (h : MembersRead (readValue depth) ms ms') (hkeys : ms'.Pairwise (fun m n => m.1 < n.1)) :
    Reads (readValue (depth + 1)) (.object ms) (.object ms') := by
  intro rest _
  have hread : members (readValue depth) _ true (encodeChars (Value.writeMembers ms) ++ rest) =
      .ok (ms', rest) := members_read h (fuel_members ms rest) rest
  have hsorted : Value.ofMembers ms' = .object ms' :=
    congrArg Value.object (sorted_of_pairwise hkeys)
  rw [Value.write, Utf8.encodeChars_cons, Utf8.utf8EncodeChar_ascii (by decide), ← hsorted]
  exact readValue_braces rfl hread

/-- What is written as an object is one, with its members as they are read. -/
theorem objectText_compact {ms ms' : List (String × Value)}
    (h : MembersRead (readValue (depthLimit - 1)) ms ms') :
    ObjectText (Utf8.encode (Value.object ms).compact) ms' := by
  refine ⟨encodeChars (Value.writeMembers ms), [], ?_, ?_, rfl⟩
  · rw [encode_compact, Value.write, Utf8.encodeChars_cons, Utf8.utf8EncodeChar_ascii (by decide)]
    rfl
  · have hread : members (readValue (depthLimit - 1)) _ true
        (encodeChars (Value.writeMembers ms) ++ []) = .ok (ms', []) :=
      members_read h (fuel_members ms []) []
    rwa [List.append_nil] at hread

/-- An array whose items are read is read with its brackets. -/
theorem readValue_brackets {depth : Nat} {bytes rest : Bytes} {vs : List Value}
    (h : items (readValue depth) (bytes.length + 1) true bytes = .ok (vs, rest)) :
    readValue (depth + 1) (91 :: bytes) = .ok (.array vs, rest) := by
  have hblank : skipBlanks (91 :: bytes) = 91 :: bytes := rfl
  have hbracket : Char.ofNat (91 : UInt8).toNat = '[' := by decide
  simp only [readValue, readValueWith, hblank, hbracket, h, Except.map]

/-- **Lists of texts survive their brackets.** -/
theorem list_texts (names : List String) (depth : Nat) (rest : Bytes) :
    Decoder.list Decoder.text (depth + 1)
      (encodeChars (Value.array (names.map .string)).write ++ rest) = .ok (names, rest) := by
  have hopens : ∀ v ∈ names.map Value.string, Opens v := by
    intro v hv
    obtain ⟨s, -, rfl⟩ := List.mem_map.mp hv
    exact opens_string s
  have hreads : List.Forall₂ (Reads (Decoder.text depth)) (names.map .string) names := by
    rw [List.forall₂_map_left_iff, List.forall₂_same]
    exact fun s _ => reads_text s depth
  rw [Value.write, Utf8.encodeChars_cons, Utf8.utf8EncodeChar_ascii (by decide)]
  exact items_read hopens hreads (fuel_items _ rest) rest

end BidFleet.Json
