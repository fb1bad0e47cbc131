import BidFleet.Text.Utf8

/-!
The order of texts is the order of their octets. UTF-8 writes the digits of a
character to the base 64 from the highest one on, behind a mark that grows with their
number (`utf8EncodeChar_digits`), so the first octet in which two encodings differ
belongs to the first characters in which the texts differ, and decides the same way
(`encode_lt_iff`).
-/

namespace BidFleet.Utf8

theorem octet_lt_iff {m n : Nat} (hm : m < 256) (hn : n < 256) :
    UInt8.ofNat m < UInt8.ofNat n ↔ m < n := by
  rw [UInt8.lt_iff_toNat_lt, UInt8.toNat_ofNat_of_lt' hm, UInt8.toNat_ofNat_of_lt' hn]

theorem octet_inj {m n : Nat} (hm : m < 256) (hn : n < 256) :
    UInt8.ofNat m = UInt8.ofNat n ↔ m = n := by
  rw [← UInt8.toNat_inj, UInt8.toNat_ofNat_of_lt' hm, UInt8.toNat_ofNat_of_lt' hn]

/-- The octets of a character are its digits to the base 64, with marks. -/
theorem utf8EncodeChar_digits (c : Char) : ∃ i j k l, i < 8 ∧ j < 64 ∧ k < 64 ∧ l < 64 ∧
    c.toNat = i * 262144 + j * 4096 + k * 64 + l ∧
    String.utf8EncodeChar c =
      if c.toNat ≤ 127 then [UInt8.ofNat (k * 64 + l)]
      else if c.toNat ≤ 2047 then [UInt8.ofNat (k + 192), UInt8.ofNat (l + 128)]
      else if c.toNat ≤ 65535 then
        [UInt8.ofNat (j + 224), UInt8.ofNat (k + 128), UInt8.ofNat (l + 128)]
      else
        [UInt8.ofNat (i + 240), UInt8.ofNat (j + 128), UInt8.ofNat (k + 128),
          UInt8.ofNat (l + 128)] := by
  have hc : c.toNat < 0x110000 := by
    rcases c.valid with hv | hv
    · exact Nat.lt_trans hv (by decide)
    · exact hv.2
  refine ⟨c.toNat / 262144, c.toNat / 4096 % 64, c.toNat / 64 % 64, c.toNat % 64, by omega,
    by omega, by omega, by omega, by omega, ?_⟩
  simp only [String.utf8EncodeChar, Char.toNat_val]
  split
  · congr 2
    omega
  · split
    · congr 3
      omega
    · split
      · congr 3
        omega
      · congr 3
        omega

/-- The smaller character comes first, whatever stands behind the two. -/
theorem append_lt_append {c d : Char} (h : c < d) (s t : Bytes) :
    String.utf8EncodeChar c ++ s < String.utf8EncodeChar d ++ t := by
  have hlt : c.toNat < d.toNat := UInt32.lt_iff_toNat_lt.mp h
  obtain ⟨i, j, k, l, hi, hj, hk, hl, hc, hcode⟩ := utf8EncodeChar_digits c
  obtain ⟨i', j', k', l', hi', hj', hk', hl', hd, hcode'⟩ := utf8EncodeChar_digits d
  rw [hcode, hcode']
  -- one case for each pair of lengths; the digits decide in all of them
  repeat' split
  all_goals
    simp (disch := omega) only [List.cons_append, List.nil_append, List.cons_lt_cons_iff,
      octet_lt_iff, octet_inj]
    omega

theorem encodeChars_lt {a b : List Char} (h : a < b) : encodeChars a < encodeChars b := by
  induction a generalizing b with
  | nil =>
    cases b with
    | nil => exact absurd h (List.lt_irrefl _)
    | cons d ds =>
      rw [encodeChars_cons]
      cases hd : String.utf8EncodeChar d with
      | nil => exact absurd hd String.utf8EncodeChar_ne_nil
      | cons x xs => exact List.nil_lt_cons _ _
  | cons c cs ih =>
    cases b with
    | nil => exact absurd h (List.not_lt_nil _)
    | cons d ds =>
      rcases List.cons_lt_cons_iff.mp h with hlt | ⟨rfl, htail⟩
      · exact append_lt_append hlt _ _
      · exact List.append_left_lt (ih htail)

/-- **Texts are ordered as their octets are.** -/
theorem encode_lt_iff {a b : String} : encode a < encode b ↔ a < b := by
  refine ⟨fun h => String.not_le.mp (fun hle => ?_), fun h => encodeChars_lt h⟩
  by_cases heq : b = a
  · exact List.lt_irrefl _ (heq ▸ h)
  · have hlt : b < a := String.not_le.mp (fun hge => heq (String.le_antisymm hle hge))
    exact List.lt_asymm h (encodeChars_lt hlt)

end BidFleet.Utf8
