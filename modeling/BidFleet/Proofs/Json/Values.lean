import BidFleet.Json.Pointer
import BidFleet.Proofs.Json.Floats
import BidFleet.Proofs.Json.Records

/-!
Values and their JSON. What is read back from the compact text of a value is the value but
for its floats: one that is not finite comes back as `null`, any other as a float
(`Rereads`). Reading follows the writer, value by value (`read_write`), and fits the
reader as long as no more arrays and objects stand around one another than it admits
(`parse_compact`). A pointer that leads to a text in a value leads to the same text in
what comes back (`Rereads.text_at`).
-/

namespace BidFleet.Json

open Utf8 (encodeChars)

/-! ## Values that fit -/

/-- A value with at most so many arrays and objects around one another, its integers of 64
bits and its objects ordered by key. -/
inductive Fits : Nat → Value → Prop
  | null {depth : Nat} : Fits depth .null
  | bool {depth : Nat} (b : Bool) : Fits depth (.bool b)
  | int {depth : Nat} {i : Int} (hlow : -(UInt64.size / 2 : Nat) ≤ i)
    (hhigh : i ≤ significandLimit) : Fits depth (.number (.int i))
  | float {depth : Nat} (x : Float) : Fits depth (.number (.float x))
  | string {depth : Nat} (s : String) : Fits depth (.string s)
  | array {depth : Nat} {items : List Value} (h : ∀ v ∈ items, Fits depth v) :
    Fits (depth + 1) (.array items)
  | object {depth : Nat} {members : List (String × Value)}
    (hkeys : members.Pairwise (fun m n => m.1 < n.1)) (h : ∀ m ∈ members, Fits depth m.2) :
    Fits (depth + 1) (.object members)

theorem Fits.ofMembers {depth : Nat} {ms : List (String × Value)}
    (h : ∀ m ∈ ms, Fits depth m.2) : Fits (depth + 1) (.ofMembers ms) :=
  .object (pairwise_sorted ms) fun m hm => h m (mem_sorted hm)

/-! ## What comes back -/

/-- A value and what its text is read as. -/
inductive Rereads : Value → Value → Prop
  | null : Rereads .null .null
  | bool (b : Bool) : Rereads (.bool b) (.bool b)
  | int (i : Int) : Rereads (.number (.int i)) (.number (.int i))
  | undefined (x : Float) : Rereads (.number (.float x)) .null
  | float (x y : Float) : Rereads (.number (.float x)) (.number (.float y))
  | string (s : String) : Rereads (.string s) (.string s)
  | array {items items' : List Value} (h : List.Forall₂ Rereads items items') :
    Rereads (.array items) (.array items')
  | object {ms ms' : List (String × Value)} (hkeys : ms.map Prod.fst = ms'.map Prod.fst)
    (h : List.Forall₂ Rereads (ms.map Prod.snd) (ms'.map Prod.snd)) :
    Rereads (.object ms) (.object ms')

namespace Rereads

theorem lookup {ms ms' : List (String × Value)} {key : String} {a : Value}
    (hkeys : ms.map Prod.fst = ms'.map Prod.fst)
    (h : List.Forall₂ Rereads (ms.map Prod.snd) (ms'.map Prod.snd))
    (hget : ms.lookup key = some a) : ∃ b, ms'.lookup key = some b ∧ Rereads a b := by
  induction ms generalizing ms' with
  | nil => cases hget
  | cons m ms ih =>
    obtain ⟨k, v⟩ := m
    cases ms' with
    | nil => cases hkeys
    | cons m' ms' =>
      obtain ⟨k', v'⟩ := m'
      obtain ⟨hk, hkeys'⟩ := List.cons.inj hkeys
      obtain rfl : k = k' := hk
      obtain ⟨hv, h⟩ := List.forall₂_cons.mp h
      rw [lookup_cons_eq] at hget ⊢
      split
      · next hk =>
        rw [if_pos hk] at hget
        cases hget
        exact ⟨v', rfl, hv⟩
      · next hk =>
        rw [if_neg hk] at hget
        exact ih hkeys' h hget

theorem get? {v w a : Value} {key : String} (h : Rereads v w) (hget : v.get? key = some a) :
    ∃ b, w.get? key = some b ∧ Rereads a b := by
  cases h with
  | object hkeys h => exact lookup hkeys h hget
  | null | bool | int | undefined | float | string | array => cases hget

theorem item {items items' : List Value} (h : List.Forall₂ Rereads items items') {n : Nat}
    {a : Value} (hget : items[n]? = some a) : ∃ b, items'[n]? = some b ∧ Rereads a b := by
  induction h generalizing n with
  | nil => cases hget
  | cons hv _ ih =>
    cases n with
    | zero =>
      cases hget
      exact ⟨_, rfl, hv⟩
    | succ n => exact ih hget

theorem step? {v w a : Value} {token : List Char} (h : Rereads v w)
    (hstep : v.step? token = some a) : ∃ b, w.step? token = some b ∧ Rereads a b := by
  cases h with
  | object hkeys h => exact lookup hkeys h hstep
  | array h =>
    obtain ⟨n, hplace, hget⟩ := Option.bind_eq_some_iff.mp hstep
    obtain ⟨b, hb, hab⟩ := item h hget
    exact ⟨b, Option.bind_eq_some_iff.mpr ⟨n, hplace, hb⟩, hab⟩
  | null | bool | int | undefined | float | string => cases hstep

theorem follow? {v w a : Value} {tokens : List (List Char)} (h : Rereads v w)
    (hfollow : v.follow? tokens = some a) : ∃ b, w.follow? tokens = some b ∧ Rereads a b := by
  induction tokens generalizing v w with
  | nil =>
    cases hfollow
    exact ⟨w, rfl, h⟩
  | cons token tokens ih =>
    rw [Value.follow?] at hfollow ⊢
    split at hfollow
    · next next hstep =>
      obtain ⟨b, hb, hnext⟩ := h.step? hstep
      rw [hb]
      exact ih hnext hfollow
    · cases hfollow

/-- A text is read back as it is, wherever it stands. -/
theorem text_at {v w : Value} {pointer s : String} (h : Rereads v w)
    (hpointer : v.pointer? pointer = some (.string s)) : w.pointer? pointer = some (.string s) := by
  obtain ⟨tokens, htokens, hfollow⟩ := Option.bind_eq_some_iff.mp hpointer
  obtain ⟨b, hb, hs⟩ := h.follow? hfollow
  cases hs
  exact Option.bind_eq_some_iff.mpr ⟨tokens, htokens, hb⟩

theorem text_of {v w : Value} {key s : String} (h : Rereads v w)
    (hget : v.get? key = some (.string s)) : w.get? key = some (.string s) := by
  obtain ⟨b, hb, hs⟩ := h.get? hget
  cases hs
  exact hb

end Rereads

/-! ## Reading what was written -/

/-- A value that begins as numbers do. -/
theorem opens_number {v : Value} {b : UInt8} {bs : Bytes} (hbytes : encodeChars v.write = b :: bs)
    (h : b = 45 ∨ isDigit b = true) : Opens v := by
  refine ⟨b, bs, hbytes, fun hb => ?_, skipBlanks_number h⟩
  subst hb
  revert h
  decide

theorem opens (v : Value) : Opens v := by
  cases v with
  | null => exact ⟨110, encodeChars "ull".toList, rfl, by decide, fun _ => rfl⟩
  | bool b =>
    cases b with
    | true => exact ⟨116, encodeChars "rue".toList, rfl, by decide, fun _ => rfl⟩
    | false => exact ⟨102, encodeChars "alse".toList, rfl, by decide, fun _ => rfl⟩
  | number n =>
    cases n with
    | int i =>
      obtain ⟨b, bs, hbytes, hfirst⟩ := integer_octets i
      exact opens_number hbytes hfirst
    | float x =>
      cases htext : Decimal.Layout.json.write? x with
      | none =>
        refine ⟨110, encodeChars "ull".toList, ?_, by decide, fun _ => rfl⟩
        rw [Value.write, Number.write, htext]
        rfl
      | some text =>
        obtain ⟨y, hy⟩ := readNumber_float htext
        obtain ⟨b, bs, hbytes, hfirst⟩ := readNumber_first (hy [] numberEnds_nil)
        have hwrite : encodeChars (Value.number (.float x)).write = b :: bs := by
          rw [Value.write, Number.write, htext, ← hbytes, List.append_nil]
          rfl
        exact opens_number hwrite hfirst
  | string s => exact opens_string s
  | array items =>
    refine ⟨91, encodeChars (Value.writeItems items), ?_, by decide, fun _ => rfl⟩
    rw [Value.write, Utf8.encodeChars_cons, Utf8.utf8EncodeChar_ascii (by decide)]
    rfl
  | object members =>
    refine ⟨123, encodeChars (Value.writeMembers members), ?_, by decide, fun _ => rfl⟩
    rw [Value.write, Utf8.encodeChars_cons, Utf8.utf8EncodeChar_ascii (by decide)]
    rfl

theorem readValue_number (depth : Nat) {n : Number} {bytes rest : Bytes}
    (h : readNumber bytes = .ok (n, rest)) : readValue depth bytes = .ok (.number n, rest) := by
  obtain ⟨list, object, hread⟩ := readValue_eq depth
  obtain ⟨b, bs, rfl, hfirst⟩ := readNumber_first h
  rw [hread, readValueWith, skipBlanks_number hfirst]
  dsimp only
  -- the first octet is that of no other kind of value
  have hother {c : Char} (hc : Char.ofNat b.toNat = c) : c = '-' ∨ c.isDigit = true := by
    have hnat : c.toNat = b.toNat := hc ▸ Utf8.toNat_ofNat_octet b
    rcases hfirst with rfl | hdigit
    · exact .inl (hc.symm.trans (by decide))
    · simp only [isDigit, Bool.and_eq_true, decide_eq_true_eq, UInt8.le_iff_toNat_le] at hdigit
      exact .inr (Char.isDigit_iff_toNat.mpr (hnat ▸ hdigit))
  split
  case h_7 =>
    rw [if_pos (hother rfl), h]
    rfl
  all_goals
    next hc => exact absurd (hother hc) (by decide)

theorem readValue_list {depth : Nat} {vs ws : List Value}
    (h : List.Forall₂ (Reads (readValue depth)) vs ws) :
    Reads (readValue (depth + 1)) (.array vs) (.array ws) := by
  intro rest _
  have hread : items (readValue depth) _ true (encodeChars (Value.writeItems vs) ++ rest) =
      .ok (ws, rest) := items_read (fun v _ => opens v) h (fuel_items vs rest) rest
  rw [Value.write, Utf8.encodeChars_cons, Utf8.utf8EncodeChar_ascii (by decide)]
  exact readValue_brackets hread

/-- Choices for the members of a list, one by one. -/
theorem exists_forall₂ {α β : Type} {R : α → β → Prop} {as : List α}
    (h : ∀ a ∈ as, ∃ b, R a b) : ∃ bs, List.Forall₂ R as bs := by
  induction as with
  | nil => exact ⟨[], .nil⟩
  | cons a as ih =>
    obtain ⟨⟨b, hb⟩, has⟩ := List.forall_mem_cons.mp h
    obtain ⟨bs, hbs⟩ := ih has
    exact ⟨b :: bs, .cons hb hbs⟩

/-- **Values that fit are read.** -/
theorem read_write {depth : Nat} {v : Value} (h : Fits depth v) :
    ∃ w, Rereads v w ∧ Reads (readValue depth) v w := by
  induction h with
  | null => exact ⟨.null, .null, readValue_null _⟩
  | bool b => exact ⟨.bool b, .bool b, readValue_bool _ b⟩
  | @int _ i hlow hhigh =>
    exact ⟨_, .int i, fun rest hrest => readValue_number _ (readNumber_integer hlow hhigh hrest)⟩
  | float x =>
    cases htext : Decimal.Layout.json.write? x with
    | none =>
      refine ⟨.null, .undefined x, fun rest hrest => ?_⟩
      rw [Value.write, Number.write, htext]
      exact readValue_null _ rest hrest
    | some text =>
      obtain ⟨y, hy⟩ := readNumber_float htext
      refine ⟨_, .float x y, fun rest hrest => ?_⟩
      rw [Value.write, Number.write, htext]
      exact readValue_number _ (hy rest hrest)
  | string s => exact ⟨.string s, .string s, readValue_string _ s⟩
  | array _ ih =>
    obtain ⟨ws, hws⟩ := exists_forall₂ ih
    exact ⟨.array ws, .array (hws.imp fun _ _ h => h.1), readValue_list (hws.imp fun _ _ h => h.2)⟩
  | @object depth ms hkeys _ ih =>
    have hchoice : ∀ m ∈ ms, ∃ m' : String × Value,
        m.1 = m'.1 ∧ Rereads m.2 m'.2 ∧ Reads (readValue depth) m.2 m'.2 := by
      intro m hm
      obtain ⟨w, hw⟩ := ih m hm
      exact ⟨(m.1, w), rfl, hw⟩
    obtain ⟨ms', hms'⟩ := exists_forall₂ hchoice
    have hsame : ms.map Prod.fst = ms'.map Prod.fst := by
      rw [← List.forall₂_eq_eq_eq, List.forall₂_map_left_iff, List.forall₂_map_right_iff]
      exact hms'.imp fun _ _ h => h.1
    have hrereads : List.Forall₂ Rereads (ms.map Prod.snd) (ms'.map Prod.snd) := by
      rw [List.forall₂_map_left_iff, List.forall₂_map_right_iff]
      exact hms'.imp fun _ _ h => h.2.1
    refine ⟨.object ms', .object hsame hrereads,
      readValue_members (hms'.imp fun _ _ h => ⟨h.1, h.2.2⟩) ?_⟩
    rw [← List.pairwise_map, ← hsame]
    exact List.pairwise_map.mpr hkeys

/-- **Values survive their text**, but for their floats. -/
theorem parse_compact {v : Value} (h : Fits depthLimit v) :
    ∃ w, parse (Utf8.encode v.compact) = .ok w ∧ Rereads v w := by
  obtain ⟨w, hrereads, hreads⟩ := read_write h
  exact ⟨w, parse_of_reads hreads, hrereads⟩

end BidFleet.Json
