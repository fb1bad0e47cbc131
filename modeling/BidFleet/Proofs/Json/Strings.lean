import BidFleet.Json.Record
import BidFleet.Proofs.Text.Octets

/-!
Strings and their JSON. Reading takes the quoted form of a string back to the
string and leaves what follows the closing quote.
-/

namespace BidFleet.Json

open Utf8 (encodeChars)

/-! ## Characters -/

/-- One octet of an ASCII character, read as a character. -/
theorem ofNat_octet {c : Char} (h : c.toNat < 128) :
    Char.ofNat (UInt8.ofNat c.toNat).toNat = c := by
  rw [UInt8.toNat_ofNat', Nat.mod_eq_of_lt (by omega), Char.ofNat_toNat]

theorem encodeChars_map {cs : List Char} (h : ∀ c ∈ cs, c.toNat < 128) :
    encodeChars cs = cs.map (fun c => UInt8.ofNat c.toNat) := by
  induction cs with
  | nil => rfl
  | cons c cs ih =>
    rw [Utf8.encodeChars_cons, Utf8.utf8EncodeChar_ascii (h c (List.mem_cons_self ..)),
      ih (fun x hx => h x (List.mem_cons_of_mem _ hx))]
    rfl

variable {fuel : Nat} {c : Char} {cs : List Char} {tail rest : Bytes}

theorem readChars_escape {bs : Bytes} (hesc : readEscape bs = .ok (c, tail))
    (h : readChars fuel none tail = .ok (cs, rest)) :
    readChars (fuel + 1) none (92 :: bs) = .ok (c :: cs, rest) := by
  simp [readChars, hesc, h, bind, Except.bind]

theorem readChars_plain {b : UInt8} {bs : Bytes} (hquote : b ≠ 34) (hslash : b ≠ 92)
    (hcontrol : ¬ b < 32) (hhead : Utf8.head? (b :: bs) = some (c, tail))
    (h : readChars fuel none tail = .ok (cs, rest)) :
    readChars (fuel + 1) none (b :: bs) = .ok (c :: cs, rest) := by
  simp [readChars, hquote, hslash, hcontrol, hhead, h, bind, Except.bind]

theorem hexNumber?_control : ∀ n < 32,
    Text.hexNumber? ['0', '0', escapeDigit (n / 16), escapeDigit (n % 16)] = some n ∧
      (escapeDigit (n / 16)).toNat < 128 ∧ (escapeDigit (n % 16)).toNat < 128 := by
  decide

/-- The escape by digits of a control character. -/
theorem readEscape_control (h : c.toNat < 32) (tail : Bytes) :
    readEscape (encodeChars ['u', '0', '0', escapeDigit (c.toNat / 16), escapeDigit (c.toNat % 16)]
      ++ tail) = .ok (c, tail) := by
  obtain ⟨hnumber, hhi, hlo⟩ := hexNumber?_control c.toNat h
  have hzero : Char.ofNat (48 : UInt8).toNat = '0' := by decide
  have hchars : ([48, 48, UInt8.ofNat (escapeDigit (c.toNat / 16)).toNat,
      UInt8.ofNat (escapeDigit (c.toNat % 16)).toNat] : Bytes).map
        (fun x => Char.ofNat x.toNat) =
      ['0', '0', escapeDigit (c.toNat / 16), escapeDigit (c.toNat % 16)] := by
    simp only [List.map_cons, List.map_nil, ofNat_octet hhi, ofNat_octet hlo, hzero]
  have hunit : readUnit (48 :: 48 :: UInt8.ofNat (escapeDigit (c.toNat / 16)).toNat ::
      UInt8.ofNat (escapeDigit (c.toNat % 16)).toNat :: tail) = .ok (c.toNat, tail) := by
    simp only [readUnit, hchars, hnumber]
  have hunits : readUnits (48 :: 48 :: UInt8.ofNat (escapeDigit (c.toNat / 16)).toNat ::
      UInt8.ofNat (escapeDigit (c.toNat % 16)).toNat :: tail) = .ok (c, tail) := by
    simp only [readUnits, hunit, bind, Except.bind]
    rw [if_neg (by omega), if_neg (by omega), Char.ofNat_toNat]
  have hbytes : encodeChars ['u', '0', '0', escapeDigit (c.toNat / 16),
      escapeDigit (c.toNat % 16)] = 117 :: 48 :: 48 ::
        [UInt8.ofNat (escapeDigit (c.toNat / 16)).toNat,
          UInt8.ofNat (escapeDigit (c.toNat % 16)).toNat] := by
    rw [encodeChars_map]
    · rfl
    · intro x hx
      simp only [List.mem_cons, List.not_mem_nil, or_false] at hx
      rcases hx with rfl | rfl | rfl | rfl | rfl
      · decide
      · decide
      · decide
      · exact hhi
      · exact hlo
  rw [hbytes]
  exact hunits

/-- An escape of two characters. -/
theorem readChars_short {e : Char} (he : e.toNat < 128)
    (hesc : readEscape (UInt8.ofNat e.toNat :: tail) = .ok (c, tail))
    (h : readChars fuel none tail = .ok (cs, rest)) :
    readChars (fuel + 1) none (encodeChars ['\\', e] ++ tail) = .ok (c :: cs, rest) := by
  rw [Utf8.encodeChars_cons, Utf8.encodeChars_cons, Utf8.utf8EncodeChar_ascii he]
  exact readChars_escape hesc h

/-- The first octet of a character that is written as it is is none of the marks. -/
theorem first_octet {b : UInt8} {bs : Bytes} (hquote : c ≠ '"') (hslash : c ≠ '\\')
    (hcontrol : 32 ≤ c.toNat) (hbytes : String.utf8EncodeChar c = b :: bs) :
    b ≠ 34 ∧ b ≠ 92 ∧ ¬ b < 32 := by
  by_cases hascii : c.toNat < 128
  · have hb : b = UInt8.ofNat c.toNat :=
      (List.cons.inj ((Utf8.utf8EncodeChar_ascii hascii).symm.trans hbytes)).1.symm
    have hbc : Char.ofNat b.toNat = c := hb ▸ ofNat_octet hascii
    have hnat : b.toNat = c.toNat := by rw [← hbc, Utf8.toNat_ofNat_octet]
    refine ⟨?_, ?_, fun hlt => ?_⟩
    · rintro rfl
      exact hquote hbc.symm
    · rintro rfl
      exact hslash hbc.symm
    · exact absurd (UInt8.lt_iff_toNat_lt.mp hlt) (Nat.not_lt_of_le (hnat ▸ hcontrol))
  · have hhigh := Utf8.utf8EncodeChar_high (Nat.le_of_not_lt hascii) b
      (hbytes ▸ List.mem_cons_self)
    refine ⟨?_, ?_, fun hlt => ?_⟩
    · rintro rfl
      exact absurd hhigh (by decide)
    · rintro rfl
      exact absurd hhigh (by decide)
    · have hlow : b.toNat < 32 := UInt8.lt_iff_toNat_lt.mp hlt
      omega

/-- A character that is written as it is. -/
theorem readChars_self (hquote : c ≠ '"') (hslash : c ≠ '\\') (hcontrol : 32 ≤ c.toNat)
    (h : readChars fuel none tail = .ok (cs, rest)) :
    readChars (fuel + 1) none (encodeChars [c] ++ tail) = .ok (c :: cs, rest) := by
  have hsingle : encodeChars [c] = String.utf8EncodeChar c := List.append_nil _
  have hhead := Utf8.head?_append c tail
  rw [hsingle]
  cases hbytes : String.utf8EncodeChar c with
  | nil => exact absurd hbytes String.utf8EncodeChar_ne_nil
  | cons b bs =>
    rw [hbytes] at hhead
    obtain ⟨h34, h92, h32⟩ := first_octet hquote hslash hcontrol hbytes
    exact readChars_plain h34 h92 h32 hhead h

/-- **One step.** The written form of a character is read as the character. -/
theorem readChars_escapeChar (c : Char) (h : readChars fuel none tail = .ok (cs, rest)) :
    readChars (fuel + 1) none (encodeChars (escapeChar c) ++ tail) = .ok (c :: cs, rest) := by
  unfold escapeChar
  split
  · next hc =>
    subst hc
    exact readChars_short (by decide) rfl h
  split
  · next hc =>
    subst hc
    exact readChars_short (by decide) rfl h
  split
  · next hc =>
    subst hc
    exact readChars_short (by decide) rfl h
  split
  · next hc =>
    subst hc
    exact readChars_short (by decide) rfl h
  split
  · next hc =>
    subst hc
    exact readChars_short (by decide) rfl h
  split
  · next hc =>
    have hc : c = Char.ofNat 8 := by rw [← hc, Char.ofNat_toNat]
    subst hc
    exact readChars_short (by decide) rfl h
  split
  · next hc =>
    have hc : c = Char.ofNat 12 := by rw [← hc, Char.ofNat_toNat]
    subst hc
    exact readChars_short (by decide) rfl h
  split
  · next hc =>
    rw [Utf8.encodeChars_cons, Utf8.utf8EncodeChar_ascii (by decide)]
    exact readChars_escape (readEscape_control hc tail) h
  · next hquote hslash _ _ _ _ _ hcontrol =>
    exact readChars_self hquote hslash (Nat.le_of_not_lt hcontrol) h

/-! ## Texts -/

theorem readChars_quoted (cs : List Char) (hfuel : cs.length < fuel) (rest : Bytes) :
    readChars fuel none (encodeChars (cs.flatMap escapeChar) ++ 34 :: rest) = .ok (cs, rest) := by
  induction cs generalizing fuel with
  | nil =>
    cases fuel with
    | zero => cases hfuel
    | succ fuel => simp [readChars]
  | cons c cs ih =>
    cases fuel with
    | zero => cases hfuel
    | succ fuel =>
      rw [List.flatMap_cons, Utf8.encodeChars_append, List.append_assoc]
      exact readChars_escapeChar c (ih (Nat.lt_of_succ_lt_succ hfuel))

theorem length_le_flatMap_escapeChar (cs : List Char) :
    cs.length ≤ (cs.flatMap escapeChar).length := by
  induction cs with
  | nil => exact Nat.le_refl _
  | cons c cs ih =>
    have hpos : 0 < (escapeChar c).length := by
      unfold escapeChar
      repeat' split
      all_goals exact Nat.zero_lt_succ _
    rw [List.flatMap_cons, List.length_append, List.length_cons]
    omega

/-- The octets of a quoted text, from behind the opening quote. -/
def quotedTail (s : String) : Bytes := encodeChars (s.toList.flatMap escapeChar) ++ [34]

theorem encodeChars_quote (s : String) : encodeChars (quote s) = 34 :: quotedTail s := by
  simp only [quote, quotedTail, List.cons_append, Utf8.encodeChars_cons, Utf8.encodeChars_append]
  rw [Utf8.utf8EncodeChar_ascii (by decide)]
  rfl

/-- **Strings survive their quotes.** -/
theorem readText_quotedTail (s : String) (rest : Bytes) :
    readText (quotedTail s ++ rest) = .ok (s, rest) := by
  have hfuel : s.toList.length < (quotedTail s ++ rest).length + 1 := by
    have hescaped := length_le_flatMap_escapeChar s.toList
    have hencoded := Utf8.length_le_encodeChars (s.toList.flatMap escapeChar)
    simp only [quotedTail, List.length_append, List.length_singleton]
    omega
  have hread : readChars ((quotedTail s ++ rest).length + 1) none (quotedTail s ++ rest) =
      .ok (s.toList, rest) := by
    have := readChars_quoted s.toList hfuel rest
    simpa [quotedTail] using this
  simp only [readText, hread, bind, Except.bind, String.ofList_toList]

/-- The decoder of texts reads a quoted text. -/
theorem text_quotedTail (s : String) (depth : Nat) (rest : Bytes) :
    Decoder.text depth (34 :: (quotedTail s ++ rest)) = .ok (s, rest) :=
  readText_quotedTail s rest

end BidFleet.Json
