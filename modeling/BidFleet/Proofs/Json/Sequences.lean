import BidFleet.Proofs.Json.Numerals
import Mathlib.Data.List.Forall2

/-!
Arrays and objects, written and read. Items whose texts are read one by one are read up to
the end of their array (`items_read`), and so are members up to the end of their object
(`members_read`). An item says by its first octet that the array goes on (`Opens`), and
the octet behind it ends every number (`numberEnds_items`, `numberEnds_members`).
-/

namespace BidFleet.Json

open Utf8 (encodeChars)

/-- The text of a value is read as this, whatever stands behind its end. -/
def Reads {α : Type} (item : Reader α) (v : Value) (a : α) : Prop :=
  ∀ rest, NumberEnds rest → item (encodeChars v.write ++ rest) = .ok (a, rest)

/-- The comma before items that stand behind others. -/
def comma {α : Type} (first : Bool) (xs : List α) : Bytes :=
  if first || xs.isEmpty then [] else [44]

/-! ## Items -/

/-- The text of a value begins neither with a blank nor with the end of an array. -/
def Opens (v : Value) : Prop :=
  ∃ b bs, encodeChars v.write = b :: bs ∧ b ≠ 93 ∧ ∀ cs, skipBlanks (b :: cs) = b :: cs

theorem opens_string (s : String) : Opens (.string s) :=
  ⟨34, quotedTail s, encodeChars_quote s, by decide, fun _ => rfl⟩

theorem writeItems_cons (v : Value) (vs : List Value) :
    encodeChars (Value.writeItems (v :: vs)) =
      encodeChars v.write ++ (comma false vs ++ encodeChars (Value.writeItems vs)) := by
  cases vs with
  | nil =>
    show encodeChars (v.write ++ [']']) = _
    rw [Utf8.encodeChars_append]
    rfl
  | cons v' vs =>
    rw [Value.writeItems, Utf8.encodeChars_append, Utf8.encodeChars_cons,
      Utf8.utf8EncodeChar_ascii (by decide)]
    · rfl
    · exact List.cons_ne_nil _ _

theorem length_le_writeItems (vs : List Value) :
    vs.length ≤ (encodeChars (Value.writeItems vs)).length := by
  induction vs with
  | nil => exact Nat.zero_le _
  | cons v vs ih =>
    rw [writeItems_cons, List.length_append, List.length_append, List.length_cons]
    cases vs with
    | nil => exact Nat.le_add_left 1 _
    | cons v' vs =>
      have hcomma : (comma false (v' :: vs)).length = 1 := rfl
      omega

/-- The octets of items are fuel enough for reading them. -/
theorem fuel_items (vs : List Value) (rest : Bytes) :
    vs.length < (encodeChars (Value.writeItems vs) ++ rest).length + 1 := by
  have hlength := length_le_writeItems vs
  rw [List.length_append]
  omega

theorem numberEnds_items (vs : List Value) (rest : Bytes) :
    NumberEnds (comma false vs ++ (encodeChars (Value.writeItems vs) ++ rest)) := by
  cases vs <;>
  · intro b hb
    cases hb
    decide

section

variable {α : Type} {item : Reader α} {vs : List Value} {as : List α} {fuel : Nat} {first : Bool}

theorem items_end {rest : Bytes} : items item (fuel + 1) first (93 :: rest) = .ok ([], rest) := by
  have hmore : moreItems first (93 :: rest) = .ok (false, 93 :: rest) := rfl
  simp [items, hmore]

/-- An item that is read, before items that are read. -/
theorem items_cons {a : α} {input bytes tail rest : Bytes}
    (hmore : moreItems first input = .ok (true, bytes)) (hitem : item bytes = .ok (a, tail))
    (htail : items item fuel false tail = .ok (as, rest)) :
    items item (fuel + 1) first input = .ok (a :: as, rest) := by
  simp [items, hmore, hitem, htail, bind, Except.bind]

/-- Where an item stands the array goes on. -/
theorem moreItems_item {v : Value} (hopens : Opens v) (vs : List Value) (bytes : Bytes) :
    moreItems first (comma first (v :: vs) ++ (encodeChars v.write ++ bytes)) =
      .ok (true, encodeChars v.write ++ bytes) := by
  obtain ⟨b, bs, hbytes, hclose, hblank⟩ := hopens
  have hcomma (cs : Bytes) : skipBlanks (44 :: cs) = 44 :: cs := rfl
  rw [hbytes, List.cons_append]
  cases first with
  | true =>
    show moreItems true (b :: (bs ++ bytes)) = _
    simp only [moreItems, hblank, if_neg hclose, if_true]
  | false =>
    show moreItems false (44 :: b :: (bs ++ bytes)) = _
    simp only [moreItems, hblank, hcomma, if_neg hclose]
    rfl

/-- Items that are read one by one are read with the end of their array. -/
theorem items_read (hopens : ∀ v ∈ vs, Opens v) (h : List.Forall₂ (Reads item) vs as)
    (hfuel : vs.length < fuel) (rest : Bytes) :
    items item fuel first (comma first vs ++ (encodeChars (Value.writeItems vs) ++ rest)) =
      .ok (as, rest) := by
  induction h generalizing fuel first with
  | nil =>
    obtain ⟨fuel, rfl⟩ : ∃ k, fuel = k + 1 := ⟨fuel - 1, by omega⟩
    cases first <;> exact items_end
  | @cons v a vs as hv _ ih =>
    rw [List.length_cons] at hfuel
    obtain ⟨fuel, rfl⟩ : ∃ k, fuel = k + 1 := ⟨fuel - 1, by omega⟩
    obtain ⟨hopen, hopens⟩ := List.forall_mem_cons.mp hopens
    rw [writeItems_cons, List.append_assoc, List.append_assoc]
    exact items_cons (moreItems_item hopen vs _) (hv _ (numberEnds_items vs rest))
      (ih hopens (by omega))

end

/-! ## Members -/

theorem writeMembers_cons (k : String) (v : Value) (ms : List (String × Value)) :
    encodeChars (Value.writeMembers ((k, v) :: ms)) =
      34 :: (quotedTail k ++ 58 ::
        (encodeChars v.write ++ (comma false ms ++ encodeChars (Value.writeMembers ms)))) := by
  cases ms with
  | nil =>
    show encodeChars (quote k ++ ':' :: v.write ++ ['}']) = _
    rw [Utf8.encodeChars_append, Utf8.encodeChars_append, encodeChars_quote,
      Utf8.encodeChars_cons, Utf8.utf8EncodeChar_ascii (by decide), List.append_assoc]
    rfl
  | cons m ms =>
    rw [Value.writeMembers, Utf8.encodeChars_append, Utf8.encodeChars_append, encodeChars_quote,
      Utf8.encodeChars_cons, Utf8.utf8EncodeChar_ascii (by decide), Utf8.encodeChars_cons,
      Utf8.utf8EncodeChar_ascii (by decide), List.append_assoc]
    · rfl
    · exact List.cons_ne_nil _ _

theorem length_le_writeMembers (ms : List (String × Value)) :
    ms.length ≤ (encodeChars (Value.writeMembers ms)).length := by
  induction ms with
  | nil => exact Nat.zero_le _
  | cons m ms ih =>
    rw [writeMembers_cons]
    simp only [List.length_cons, List.length_append]
    omega

/-- The octets of members are fuel enough for reading them. -/
theorem fuel_members (ms : List (String × Value)) (rest : Bytes) :
    ms.length < (encodeChars (Value.writeMembers ms) ++ rest).length + 1 := by
  have hlength := length_le_writeMembers ms
  rw [List.length_append]
  omega

theorem numberEnds_members (ms : List (String × Value)) (rest : Bytes) :
    NumberEnds (comma false ms ++ (encodeChars (Value.writeMembers ms) ++ rest)) := by
  cases ms <;>
  · intro b hb
    cases hb
    decide

section

variable {α : Type} {item : Reader α} {fuel : Nat} {first : Bool}

theorem members_end {rest : Bytes} :
    members item (fuel + 1) first (125 :: rest) = .ok ([], rest) := by
  have hmore : moreMembers first (125 :: rest) = .ok (false, 125 :: rest) := rfl
  simp [members, hmore]

/-- A member before members that are read. -/
theorem members_cons {key : String} {a : α} {more : List (String × α)}
    {input bytes tail rest : Bytes}
    (hmore : moreMembers first input = .ok (true, 34 :: (quotedTail key ++ 58 :: bytes)))
    (hitem : item bytes = .ok (a, tail)) (htail : members item fuel false tail = .ok (more, rest)) :
    members item (fuel + 1) first input = .ok ((key, a) :: more, rest) := by
  have hkey : readText (quotedTail key ++ 58 :: bytes) = .ok (key, 58 :: bytes) :=
    readText_quotedTail key _
  have hcolon : readColon (58 :: bytes) = .ok bytes := rfl
  simp [members, hmore, hkey, hcolon, hitem, htail, bind, Except.bind]

/-- Members whose values are read as those of other members. -/
abbrev MembersRead (item : Reader α) : List (String × Value) → List (String × α) → Prop :=
  List.Forall₂ fun m m' => m.1 = m'.1 ∧ Reads item m.2 m'.2

/-- Members that are read one by one are read with the end of their object. -/
theorem members_read {ms : List (String × Value)} {ms' : List (String × α)}
    (h : MembersRead item ms ms') (hfuel : ms.length < fuel) (rest : Bytes) :
    members item fuel first (comma first ms ++ (encodeChars (Value.writeMembers ms) ++ rest)) =
      .ok (ms', rest) := by
  induction h generalizing fuel first with
  | nil =>
    obtain ⟨fuel, rfl⟩ : ∃ k, fuel = k + 1 := ⟨fuel - 1, by omega⟩
    cases first <;> exact members_end
  | @cons m m' ms ms' hm _ ih =>
    obtain ⟨k, v⟩ := m
    obtain ⟨k', a⟩ := m'
    obtain ⟨hkey, hv⟩ := hm
    obtain rfl : k = k' := hkey
    rw [List.length_cons] at hfuel
    obtain ⟨fuel, rfl⟩ : ∃ j, fuel = j + 1 := ⟨fuel - 1, by omega⟩
    rw [writeMembers_cons, List.cons_append, List.append_assoc, List.cons_append,
      List.append_assoc, List.append_assoc]
    refine members_cons ?_ (hv _ (numberEnds_members ms rest)) (ih (by omega))
    cases first <;> rfl

end

end BidFleet.Json
