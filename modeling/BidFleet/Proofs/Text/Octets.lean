import BidFleet.Text.Percent

/-!
Texts and their octets. Decoding takes the UTF-8 encoding of a text back to the
text, and percent decoding takes an escaped sequence back to its octets, as long
as the percent sign is among the octets that are escaped. Neither encoding shortens.
-/

namespace BidFleet

/-! ## UTF-8 -/

namespace Utf8

/-- A character of ASCII is one octet. -/
theorem utf8EncodeChar_ascii {c : Char} (h : c.toNat < 128) :
    String.utf8EncodeChar c = [UInt8.ofNat c.toNat] := by
  have hv : c.toNat ≤ 0x7f := Nat.le_of_lt_succ h
  simp only [String.utf8EncodeChar, Char.toNat_val, hv, if_true]

/-- Any other character has no octet of ASCII. -/
theorem utf8EncodeChar_high {c : Char} (h : 128 ≤ c.toNat) :
    ∀ b ∈ String.utf8EncodeChar c, 128 ≤ b.toNat := by
  have hv : ¬ c.toNat ≤ 0x7f := Nat.not_le_of_lt h
  intro b hb
  simp only [String.utf8EncodeChar, Char.toNat_val, hv, if_false] at hb
  split at hb
  · simp only [List.mem_cons, List.not_mem_nil, or_false] at hb
    rcases hb with rfl | rfl <;> simp only [UInt8.toNat_ofNat'] <;> omega
  · split at hb
    · simp only [List.mem_cons, List.not_mem_nil, or_false] at hb
      rcases hb with rfl | rfl | rfl <;> simp only [UInt8.toNat_ofNat'] <;> omega
    · simp only [List.mem_cons, List.not_mem_nil, or_false] at hb
      rcases hb with rfl | rfl | rfl | rfl <;> simp only [UInt8.toNat_ofNat'] <;> omega

/-- An octet, read as a character, keeps its number. -/
theorem toNat_ofNat_octet (b : UInt8) : (Char.ofNat b.toNat).toNat = b.toNat := by
  have hvalid : b.toNat.isValidChar := Or.inl (Nat.lt_trans b.toNat_lt (by decide))
  rw [Char.ofNat, dif_pos hvalid]
  rfl

/-- Octets of ASCII, read as characters, are their own encoding. -/
theorem encodeChars_ascii {bytes : Bytes} (h : ∀ b ∈ bytes, b.toNat < 128) :
    encodeChars (bytes.map (fun b => Char.ofNat b.toNat)) = bytes := by
  induction bytes with
  | nil => rfl
  | cons b bs ih =>
    have hascii : (Char.ofNat b.toNat).toNat < 128 := by
      rw [toNat_ofNat_octet]
      exact h b (List.mem_cons_self ..)
    rw [List.map_cons, encodeChars_cons, utf8EncodeChar_ascii hascii, toNat_ofNat_octet,
      UInt8.ofNat_toNat,
      ih (fun x hx => h x (List.mem_cons_of_mem _ hx)), List.singleton_append]

theorem length_encodeChars (cs : List Char) :
    (encodeChars cs).length = (String.ofList cs).utf8ByteSize := by
  induction cs with
  | nil => rfl
  | cons c cs ih =>
    have hsplit : String.ofList (c :: cs) = String.singleton c ++ String.ofList cs := by
      rw [String.singleton_eq_ofList, ← String.ofList_append]
      rfl
    rw [encodeChars_cons, List.length_append, String.length_utf8EncodeChar, ih, hsplit,
      String.utf8ByteSize_append, String.utf8ByteSize_singleton]

theorem length_encode (text : String) : (encode text).length = text.utf8ByteSize := by
  rw [encode, length_encodeChars, String.ofList_toList]

/-- An octet of ASCII comes from its own character. -/
theorem mem_of_octet {c : Char} {cs : List Char} (hc : c.toNat < 128)
    (h : UInt8.ofNat c.toNat ∈ encodeChars cs) : c ∈ cs := by
  have hnat : (UInt8.ofNat c.toNat).toNat = c.toNat := by
    rw [UInt8.toNat_ofNat']
    omega
  induction cs with
  | nil => cases h
  | cons d ds ih =>
    rw [encodeChars_cons, List.mem_append] at h
    rcases h with hd | hds
    · by_cases hascii : d.toNat < 128
      · rw [utf8EncodeChar_ascii hascii, List.mem_singleton] at hd
        have heq : c.toNat = d.toNat := by
          rw [← hnat, hd, UInt8.toNat_ofNat']
          omega
        rw [← Char.ofNat_toNat c, heq, Char.ofNat_toNat]
        exact List.mem_cons_self ..
      · have hhigh := utf8EncodeChar_high (Nat.le_of_not_lt hascii) _ hd
        omega
    · exact List.mem_cons_of_mem _ (ih hds)

/-- The encoding of a character is read off the front. -/
theorem head?_append (c : Char) (rest : Bytes) :
    head? (String.utf8EncodeChar c ++ rest) = some (c, rest) := by
  have hlen : (String.utf8EncodeChar c).length ≤ 4 := by
    rw [String.length_utf8EncodeChar]
    exact c.utf8Size_le_four
  have hread :
      ((String.utf8EncodeChar c ++ rest).take 4).toByteArray.utf8DecodeChar? 0 = some c := by
    rw [List.take_append, List.take_of_length_le hlen, List.toByteArray_append]
    exact ByteArray.utf8DecodeChar?_utf8EncodeChar_append
  have hrest : (String.utf8EncodeChar c ++ rest).drop c.utf8Size = rest := by
    rw [← String.length_utf8EncodeChar, List.drop_left]
  simp only [head?, hread, hrest]

theorem decodeChars?_encodeChars (cs : List Char) {fuel : Nat} (h : cs.length ≤ fuel) :
    decodeChars? fuel (encodeChars cs) = some cs := by
  induction cs generalizing fuel with
  | nil => cases fuel <;> rfl
  | cons c cs ih =>
    cases fuel with
    | zero => cases h
    | succ fuel =>
      have hhead := head?_append c (encodeChars cs)
      rw [encodeChars_cons]
      cases hbytes : String.utf8EncodeChar c ++ encodeChars cs with
      | nil => exact absurd (List.append_eq_nil_iff.mp hbytes).1 String.utf8EncodeChar_ne_nil
      | cons b bs =>
        rw [hbytes] at hhead
        simp only [decodeChars?, hhead, ih (Nat.le_of_succ_le_succ h), Option.map_some]

theorem length_le_encodeChars (cs : List Char) : cs.length ≤ (encodeChars cs).length := by
  induction cs with
  | nil => exact Nat.le_refl _
  | cons c cs ih =>
    have := c.utf8Size_pos
    rw [encodeChars_cons, List.length_append, String.length_utf8EncodeChar, List.length_cons]
    omega

/-- **Texts survive their encoding.** -/
theorem decode?_encode (s : String) : decode? (encode s) = some s := by
  rw [decode?, encode, decodeChars?_encodeChars _ (length_le_encodeChars _), Option.map_some,
    String.ofList_toList]

end Utf8

/-! ## Percent encoding -/

namespace Percent

theorem hexDigit_toNat {n : Nat} (h : n < 16) :
    (hexDigit n).toNat = if n < 10 then 48 + n else 55 + n := by
  rw [hexDigit, UInt8.toNat_ofNat']
  split <;> omega

theorem hexValue?_hexDigit {n : Nat} (h : n < 16) : hexValue? (hexDigit n) = some n := by
  simp only [hexValue?, hexDigit_toNat h]
  split
  · rw [if_pos (by omega)]
    congr 1
    omega
  · rw [if_neg (by omega), if_pos (by omega)]
    congr 1
    omega

/-- An escaped octet is decoded. -/
theorem decode_escape (b : UInt8) (rest : Bytes) :
    decode (escape b ++ rest) = b :: decode rest := by
  have hb : b.toNat < 256 := b.toNat_lt
  have hvalue : b.toNat / 16 * 16 + b.toNat % 16 = b.toNat := by omega
  simp only [escape, List.cons_append, List.nil_append, decode, if_true,
    hexValue?_hexDigit (show b.toNat / 16 < 16 by omega),
    hexValue?_hexDigit (show b.toNat % 16 < 16 by omega), hvalue, UInt8.ofNat_toNat]

/-- Any octet but the percent sign stands for itself. -/
theorem decode_cons {b : UInt8} (h : b ≠ 37) (rest : Bytes) :
    decode (b :: rest) = b :: decode rest := by
  match rest with
  | [] => rfl
  | [_] => rfl
  | _ :: _ :: _ => rw [decode, if_neg h]

/-- **Octets survive their escapes.** -/
theorem decode_encode {reserved : UInt8 → Bool} (h : reserved 37 = true) (bytes : Bytes) :
    decode (encode reserved bytes) = bytes := by
  induction bytes with
  | nil => rfl
  | cons b bs ih =>
    have hcons : encode reserved (b :: bs) =
        (if reserved b then escape b else [b]) ++ encode reserved bs := List.flatMap_cons
    rw [hcons]
    by_cases hb : reserved b = true
    · rw [if_pos hb, decode_escape, ih]
    · have hne : b ≠ 37 := fun he => hb (he ▸ h)
      rw [if_neg hb, List.singleton_append, decode_cons hne, ih]

theorem length_le_encode (reserved : UInt8 → Bool) (bytes : Bytes) :
    bytes.length ≤ (encode reserved bytes).length := by
  induction bytes with
  | nil => exact Nat.le_refl 0
  | cons b bs ih =>
    have hone : 1 ≤ (if reserved b then escape b else [b]).length := by split <;> simp [escape]
    rw [encode] at ih ⊢
    rw [List.flatMap_cons, List.length_append, List.length_cons]
    omega

/-- What an escaped sequence is made of: digits and letters of escapes, the percent
sign, and octets that are not escaped. -/
theorem mem_encode {reserved : UInt8 → Bool} {bytes : Bytes} {x : UInt8}
    (h : x ∈ encode reserved bytes) :
    x = 37 ∨ (∃ n < 16, x = hexDigit n) ∨ (x ∈ bytes ∧ reserved x = false) := by
  obtain ⟨b, hb, hx⟩ := List.mem_flatMap.mp h
  split at hx
  case isTrue hr =>
    have hlt : b.toNat < 256 := b.toNat_lt
    simp only [escape, List.mem_cons, List.not_mem_nil, or_false] at hx
    rcases hx with rfl | rfl | rfl
    · exact .inl rfl
    · exact .inr (.inl ⟨_, by omega, rfl⟩)
    · exact .inr (.inl ⟨_, by omega, rfl⟩)
  case isFalse hr =>
    have hxb := List.mem_singleton.mp hx
    exact .inr (.inr ⟨hxb ▸ hb, by simpa [hxb] using hr⟩)

end Percent

end BidFleet
