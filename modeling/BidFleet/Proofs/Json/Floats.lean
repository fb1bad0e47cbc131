import BidFleet.Proofs.Decimal.Shortest
import BidFleet.Proofs.Json.Numerals

/-!
Floats and their JSON. The text of a float, in whichever layout, is read as the scaling of
its digits by its power of ten (`readsFloat_scaled`). Scaling rounds twice, so it may
miss the float; but it never goes beyond all floats (`scale?_shortest`), not even from
the greatest one. So the text of every finite float is read as a float
(`readNumber_float`).
-/

namespace BidFleet.Json

open Decimal (Binary Layout Scaled classify greatest shortest)
open Utf8 (encodeChars)

/-! ## Scaling -/

/-- Scaling by a power of ten that keeps below the greatest number, with room for its two
roundings. -/
theorem scale?_below {significand n : Nat} (hpos : 0 < significand) (hsize : significand < 2 ^ 64)
    (hn : n ≤ 308)
    (h : (significand : ℚ) * 10 ^ n * (1 + 2 ^ (-52 : Int)) ^ 2 < greatest) :
    ∃ x, scale? significand n = some x := by
  obtain ⟨v, hfull, hv⟩ := Decimal.toFloat_full hpos hsize
  obtain ⟨w, hfull', hw⟩ := Decimal.powerOfTen_full hn
  have hproduct : v * w < greatest := by
    refine lt_of_le_of_lt ?_ h
    calc v * w ≤ significand * (1 + 2 ^ (-52 : Int)) * (10 ^ n * (1 + 2 ^ (-52 : Int))) :=
          mul_le_mul hv hw hfull'.pos.le (by positivity)
      _ = significand * 10 ^ n * (1 + 2 ^ (-52 : Int)) ^ 2 := by ring
  have hfinite := Decimal.isInf_mul hfull hfull' hproduct
  refine ⟨significand.toUInt64.toFloat * powerOfTen n, ?_⟩
  show (if n ≤ 308 then _ else _) = _
  rw [if_pos hn, hfinite]
  rfl

/-- The last five numbers leave no room, but scaling finds numbers all the same. -/
theorem scale?_last : ∀ i < 5, (scale? (shortest ⟨2 ^ 53 - 1 - i, 971, false⟩).digits
    (shortest ⟨2 ^ 53 - 1 - i, 971, false⟩).exponent).isSome = true := by
  decide +kernel

/-- Above every number but the last five there is room for half a unit and two roundings. -/
theorem scaled_room {b : Binary} (hb : b.Valid)
    (hlast : ¬(b.exponent = 971 ∧ 2 ^ 53 - 6 < b.significand)) :
    (4 * b.significand + 2 : Nat) * b.quarter * (1 + 2 ^ (-52 : Int)) ^ 2 < greatest := by
  have hunit : (2 : ℚ) ^ (971 : Int) = 4 * 2 ^ (969 : Int) := by
    rw [(by norm_num : (971 : Int) = 2 + 969), zpow_add₀ two_ne_zero]
    rfl
  have hpos : (0 : ℚ) < 2 ^ (969 : Int) := zpow_pos two_pos _
  have hbits := hb.bits
  have hroom : (4 * b.significand + 2 : Nat) * b.quarter ≤ (2 ^ 55 - 22) * 2 ^ (969 : Int) := by
    by_cases hexponent : b.exponent = 971
    · have hfew : 4 * b.significand + 2 + 22 ≤ 2 ^ 55 := by omega
      have hfew' : ((4 * b.significand + 2 : Nat) : ℚ) + 22 ≤ 2 ^ 55 := by exact_mod_cast hfew
      rw [Binary.quarter, hexponent]
      exact mul_le_mul_of_nonneg_right (by linarith) hpos.le
    · -- with a smaller exponent the unit is at most half of it
      have hmost := hb.most
      have hfew : ((4 * b.significand + 2 : Nat) : ℚ) ≤ 2 ^ 55 := by
        have : 4 * b.significand + 2 ≤ 2 ^ 55 := by omega
        exact_mod_cast this
      have hquarter : b.quarter ≤ 2 ^ (968 : Int) := zpow_le_zpow_right₀ one_le_two (by omega)
      have hhalf : (2 : ℚ) ^ (969 : Int) = 2 * 2 ^ (968 : Int) := by
        rw [(by norm_num : (969 : Int) = 1 + 968), zpow_add₀ two_ne_zero]
        rfl
      have hpos' : (0 : ℚ) < 2 ^ (968 : Int) := zpow_pos two_pos _
      calc (4 * b.significand + 2 : Nat) * b.quarter ≤ 2 ^ 55 * 2 ^ (968 : Int) :=
            mul_le_mul hfew hquarter b.quarter_pos.le (by positivity)
        _ ≤ (2 ^ 55 - 22) * 2 ^ (969 : Int) := by
            rw [hhalf]
            generalize (2 : ℚ) ^ (968 : Int) = half at hpos'
            linarith
  rw [Decimal.cast_greatest, hunit]
  generalize (2 : ℚ) ^ (969 : Int) = unit at hpos hroom
  calc (4 * b.significand + 2 : Nat) * b.quarter * (1 + 2 ^ (-52 : Int)) ^ 2
      ≤ (2 ^ 55 - 22) * unit * (1 + 2 ^ (-52 : Int)) ^ 2 := by gcongr
    _ = (2 ^ 55 - 22) * (1 + 2 ^ (-52 : Int)) ^ 2 * unit := by ring
    _ < (2 ^ 53 - 1) * 4 * unit := mul_lt_mul_of_pos_right (by norm_num) hpos
    _ = (2 ^ 53 - 1) * (4 * unit) := by ring

/-- **No number is lost.** The shortest decimal of a number is never beyond every float. -/
theorem scale?_shortest {b : Binary} (hb : b.Valid) :
    ∃ x, scale? (shortest b).digits (shortest b).exponent = some x := by
  by_cases hlast : b.exponent = 971 ∧ 2 ^ 53 - 6 < b.significand
  · have hnarrow : b.narrow = false := by
      cases h : b.narrow with
      | false => rfl
      | true =>
        have := hb.narrow h
        omega
    have hbits := hb.bits
    have hb' : b = ⟨2 ^ 53 - 1 - (2 ^ 53 - 1 - b.significand), 971, false⟩ := by
      obtain ⟨m, q, narrow⟩ := b
      dsimp only at hlast hbits hnarrow ⊢
      rw [hlast.1, hnarrow, (by omega : 2 ^ 53 - 1 - (2 ^ 53 - 1 - m) = m)]
    rw [hb']
    exact Option.isSome_iff_exists.mp (scale?_last _ (by omega))
  · obtain ⟨hpos, hsize, -, hvalue⟩ := Decimal.shortest_bounds hb
    have hroom := scaled_room hb hlast
    cases hexponent : (shortest b).exponent with
    | negSucc n => exact ⟨_, rfl⟩
    | ofNat n =>
      rw [hexponent] at hvalue
      have hbelow : ((shortest b).digits : ℚ) * 10 ^ n * (1 + 2 ^ (-52 : Int)) ^ 2 < greatest := by
        refine lt_of_le_of_lt ?_ hroom
        exact mul_le_mul_of_nonneg_right hvalue (by positivity)
      refine scale?_below hpos (hsize.trans_lt (by decide)) (Nat.le_of_not_lt fun hn => ?_) hbelow
      -- a greater power of ten is beyond the greatest number
      have hgreatest : greatest < 10 ^ 154 * 10 ^ 155 := by decide +kernel
      have hten : (greatest : ℚ) < 10 ^ (154 + 155) := by
        rw [pow_add]
        exact_mod_cast hgreatest
      have hone : (1 : ℚ) ≤ (shortest b).digits := by exact_mod_cast hpos
      refine absurd (hbelow.trans hten) (not_lt.mpr ?_)
      calc (10 : ℚ) ^ (154 + 155) ≤ 10 ^ n := pow_le_pow_right₀ (by norm_num) hn
        _ = 1 * 10 ^ n * 1 := by ring
        _ ≤ (shortest b).digits * 10 ^ n * (1 + 2 ^ (-52 : Int)) ^ 2 := by
          gcongr
          norm_num

/-! ## Fractions and exponents -/

/-- The octets of digits. -/
def octets (cs : List Char) : Bytes := cs.map (fun c => UInt8.ofNat c.toNat)

section

variable {negative : Bool} {significand : Nat} {exponent : Int} {rest : Bytes}

theorem finishFloat_eq {x : Float} (h : scale? significand exponent = some x) :
    finishFloat negative significand exponent rest = .ok (.float (signed negative x), rest) := by
  rw [finishFloat, h]

theorem readScale_end (hrest : NumberEnds rest) :
    readScale negative significand exponent rest =
      finishFloat negative significand exponent rest := by
  cases rest with
  | nil => rfl
  | cons b bs =>
    obtain ⟨-, -, he, hE⟩ := hrest b rfl
    rw [readScale, if_neg (not_or.mpr ⟨he, hE⟩)]

theorem readFraction_digits {cs : List Char} (hne : cs ≠ []) (hdigits : ∀ c ∈ cs, c.isDigit = true)
    (hlimit : Nat.ofDigitChars 10 cs significand ≤ significandLimit)
    (hrest : startsWithDigit rest = false) :
    readFraction negative significand exponent (octets cs ++ rest) =
      readScale negative (Nat.ofDigitChars 10 cs significand) (exponent - cs.length) rest := by
  have hgather : gather significandLimit significand (octets cs ++ rest) =
      (Nat.ofDigitChars 10 cs significand, rest) := gather_digits hdigits hlimit hrest
  have htaken : (octets cs ++ rest).length - rest.length = cs.length := by
    rw [octets, List.length_append, List.length_map, Nat.add_sub_cancel]
  have hsome : cs.length ≠ 0 := fun h => hne (List.length_eq_zero_iff.mp h)
  rw [readFraction, hgather]
  dsimp only
  rw [hrest, if_neg Bool.false_ne_true, htaken, if_neg hsome]

def exponentSign (down : Bool) : UInt8 := if down then 45 else 43

theorem readExponent_natural {down : Bool} {n : Nat} (hn : n ≤ exponentLimit)
    (hrest : NumberEnds rest) :
    readExponent negative significand exponent
        (exponentSign down :: (octets (Text.natural n) ++ rest)) =
      finishFloat negative significand (if down then exponent - n else exponent + n) rest := by
  have hdigits : ∀ c ∈ Text.natural n, c.isDigit = true := fun c hc => Text.isDigit_natural hc
  have hvalue : Nat.ofDigitChars 10 (Text.natural n) 0 = n := Nat.ofDigitChars_ten_toDigits
  have hgather : gather exponentLimit 0 (octets (Text.natural n) ++ rest) = (n, rest) := by
    rw [octets, gather_digits hdigits (hvalue.symm ▸ hn) hrest.not_digit, hvalue]
  cases hcs : Text.natural n with
  | nil => exact absurd hcs (Text.natural_ne_nil n)
  | cons c cs =>
    rw [hcs] at hgather hdigits
    obtain ⟨-, hdigit, -⟩ := digit_octet (hdigits c (List.mem_cons_self ..))
    rw [octets, List.map_cons, List.cons_append] at hgather ⊢
    cases down <;>
      simp only [readExponent, exponentSign, if_true, Bool.false_eq_true, if_false, hdigit, hgather,
        hrest.not_digit]

end

/-! ## Layouts -/

/-- An exponent, written with its mark and its sign. -/
def exponentText (e : Int) : List Char :=
  'e' :: (if e < 0 then '-' else '+') :: Text.natural e.natAbs

theorem encodeChars_exponentText (e : Int) :
    encodeChars (exponentText e) =
      101 :: exponentSign (decide (e < 0)) :: octets (Text.natural e.natAbs) := by
  have hdigits : ∀ c ∈ Text.natural e.natAbs, c.isDigit = true :=
    fun c hc => Text.isDigit_natural hc
  by_cases h : e < 0
  · rw [exponentText, if_pos h, decide_eq_true h, Utf8.encodeChars_cons, Utf8.encodeChars_cons,
      Utf8.utf8EncodeChar_ascii (by decide), Utf8.utf8EncodeChar_ascii (by decide),
      encodeChars_digits hdigits]
    rfl
  · rw [exponentText, if_neg h, decide_eq_false h, Utf8.encodeChars_cons, Utf8.encodeChars_cons,
      Utf8.utf8EncodeChar_ascii (by decide), Utf8.utf8EncodeChar_ascii (by decide),
      encodeChars_digits hdigits]
    rfl

/-- The exponent that is read is added to that of the significand. -/
theorem readExponent_signed {negative : Bool} {significand : Nat} {exponent e : Int} {rest : Bytes}
    (he : e.natAbs ≤ exponentLimit) (hrest : NumberEnds rest) :
    readExponent negative significand exponent
        (exponentSign (decide (e < 0)) :: (octets (Text.natural e.natAbs) ++ rest)) =
      finishFloat negative significand (exponent + e) rest := by
  rw [readExponent_natural he hrest]
  by_cases h : e < 0
  · rw [if_pos (decide_eq_true h), Int.ofNat_natAbs_of_nonpos h.le, Int.sub_neg]
  · rw [if_neg (by simpa using h), Int.natAbs_of_nonneg (Int.not_lt.mp h)]

/-- A whole part and a fraction are the digits of one significand. -/
theorem readMagnitude_point (negative : Bool) {c : Char} {w f : List Char}
    (hdigits : ∀ x ∈ c :: w ++ f, x.isDigit = true) (hfirst : c ≠ '0') (hne : f ≠ [])
    (hlimit : Nat.ofDigitChars 10 (c :: w ++ f) 0 ≤ significandLimit) {tail : Bytes}
    (htail : startsWithDigit tail = false) :
    readMagnitude negative (encodeChars (c :: w ++ '.' :: f) ++ tail) =
      readScale negative (Nat.ofDigitChars 10 (c :: w ++ f) 0) (0 - f.length) tail := by
  have hwhole : ∀ x ∈ c :: w, x.isDigit = true :=
    fun x hx => hdigits x (List.mem_append_left _ hx)
  have hfraction : ∀ x ∈ f, x.isDigit = true :=
    fun x hx => hdigits x (List.mem_append_right _ hx)
  rw [Nat.ofDigitChars_append] at hlimit ⊢
  have hle := Text.le_ofDigitChars f (Nat.ofDigitChars 10 (c :: w) 0)
  have hbytes : encodeChars (c :: w ++ '.' :: f) ++ tail =
      (c :: w).map (fun c => UInt8.ofNat c.toNat) ++ 46 :: (octets f ++ tail) := by
    rw [Utf8.encodeChars_append, encodeChars_digits hwhole, Utf8.encodeChars_cons,
      Utf8.utf8EncodeChar_ascii (by decide), encodeChars_digits hfraction, List.append_assoc]
    rfl
  rw [hbytes, readMagnitude_digits negative hwhole hfirst (hle.trans hlimit) rfl]
  exact readFraction_digits hne hfraction hlimit htail

/-- A text without a sign that is read as a float. -/
def ReadsFloat (negative : Bool) (text : List Char) : Prop :=
  ∃ x, ∀ rest, NumberEnds rest →
    readMagnitude negative (encodeChars text ++ rest) = .ok (.float x, rest)

section

variable {negative : Bool}

/-- With the point in front of its last digits, a decimal is not beyond any float. -/
theorem scale?_fraction (significand : Nat) {f : List Char} (hne : f ≠ []) :
    ∃ x, scale? significand (0 - (f.length : Int)) = some x := by
  obtain ⟨c, cs, rfl⟩ := List.exists_cons_of_ne_nil hne
  have hnegative : 0 - ((c :: cs).length : Int) = .negSucc cs.length := by
    rw [List.length_cons]
    omega
  rw [hnegative]
  exact ⟨_, rfl⟩

theorem readsFloat_point {c : Char} {w f : List Char}
    (hdigits : ∀ x ∈ c :: w ++ f, x.isDigit = true) (hfirst : c ≠ '0') (hne : f ≠ [])
    (hlimit : Nat.ofDigitChars 10 (c :: w ++ f) 0 ≤ significandLimit) :
    ReadsFloat negative (c :: w ++ '.' :: f) := by
  obtain ⟨x, hx⟩ := scale?_fraction (Nat.ofDigitChars 10 (c :: w ++ f) 0) hne
  refine ⟨signed negative x, fun rest hrest => ?_⟩
  rw [readMagnitude_point negative hdigits hfirst hne hlimit hrest.not_digit, readScale_end hrest,
    finishFloat_eq hx]

theorem readsFloat_zero_point {f : List Char} (hdigits : ∀ x ∈ f, x.isDigit = true) (hne : f ≠ [])
    (hlimit : Nat.ofDigitChars 10 f 0 ≤ significandLimit) :
    ReadsFloat negative ('0' :: '.' :: f) := by
  have hbytes (rest : Bytes) : encodeChars ('0' :: '.' :: f) ++ rest =
      48 :: 46 :: (octets f ++ rest) := by
    rw [Utf8.encodeChars_cons, Utf8.utf8EncodeChar_ascii (by decide), Utf8.encodeChars_cons,
      Utf8.utf8EncodeChar_ascii (by decide), encodeChars_digits hdigits]
    rfl
  obtain ⟨x, hx⟩ := scale?_fraction (Nat.ofDigitChars 10 f 0) hne
  refine ⟨signed negative x, fun rest hrest => ?_⟩
  rw [hbytes, readMagnitude_zero negative rfl]
  show readFraction negative 0 0 (octets f ++ rest) = _
  rw [readFraction_digits hne hdigits hlimit hrest.not_digit, readScale_end hrest,
    finishFloat_eq hx]

/-- One digit with an exponent. -/
theorem readsFloat_digit_exponent {c : Char} (hdigit : c.isDigit = true) (hfirst : c ≠ '0')
    (hlimit : Nat.ofDigitChars 10 [c] 0 ≤ significandLimit) {e : Int}
    (he : e.natAbs ≤ exponentLimit) {x : Float}
    (hscale : scale? (Nat.ofDigitChars 10 [c] 0) e = some x) :
    ReadsFloat negative ([c] ++ exponentText e) := by
  have hc : ∀ x ∈ [c], x.isDigit = true := List.forall_mem_singleton.mpr hdigit
  refine ⟨signed negative x, fun rest hrest => ?_⟩
  rw [Utf8.encodeChars_append, encodeChars_digits hc, List.append_assoc, encodeChars_exponentText,
    List.cons_append, List.cons_append, readMagnitude_digits negative hc hfirst hlimit rfl]
  show readExponent negative _ 0 _ = _
  rw [readExponent_signed he hrest, Int.zero_add, finishFloat_eq hscale]

/-- Several digits, the point behind the first of them, with an exponent. -/
theorem readsFloat_point_exponent {c : Char} {f : List Char}
    (hdigits : ∀ x ∈ [c] ++ f, x.isDigit = true) (hfirst : c ≠ '0') (hne : f ≠ [])
    (hlimit : Nat.ofDigitChars 10 ([c] ++ f) 0 ≤ significandLimit) {e : Int}
    (he : e.natAbs ≤ exponentLimit) {x : Float}
    (hscale : scale? (Nat.ofDigitChars 10 ([c] ++ f) 0) (0 - f.length + e) = some x) :
    ReadsFloat negative ([c] ++ '.' :: f ++ exponentText e) := by
  refine ⟨signed negative x, fun rest hrest => ?_⟩
  rw [Utf8.encodeChars_append, List.append_assoc, encodeChars_exponentText]
  refine (readMagnitude_point negative hdigits hfirst hne hlimit rfl).trans ?_
  show readExponent negative _ _ (_ :: (_ ++ _)) = _
  rw [readExponent_signed he hrest, finishFloat_eq hscale]

/-! ### Digits of a number -/

theorem natural_cons {n : Nat} (hpos : 0 < n) :
    ∃ c cs, Text.natural n = c :: cs ∧ c ≠ '0' ∧ (∀ x ∈ c :: cs, x.isDigit = true) ∧
      Nat.ofDigitChars 10 (c :: cs) 0 = n := by
  obtain ⟨c, cs, hcs⟩ := List.exists_cons_of_ne_nil (Text.natural_ne_nil n)
  have hfirst : c ≠ '0' := (natural_head hcs).resolve_right fun h => absurd h.1 hpos.ne'
  refine ⟨c, cs, hcs, hfirst, fun x hx => Text.isDigit_natural (hcs ▸ hx), ?_⟩
  rw [← hcs]
  exact Nat.ofDigitChars_ten_toDigits

/-- The digits of a shortest decimal are within the limits of the significand. -/
theorem le_significandLimit {n : Nat} (h : n ≤ 10 ^ 17) : n ≤ significandLimit :=
  h.trans (by decide)

theorem isDigit_zeros {z : Nat} {x : Char} (h : x ∈ List.replicate z '0') : x.isDigit = true := by
  rw [List.eq_of_mem_replicate h]
  rfl

variable {n : Nat} (hpos : 0 < n) (hsize : n ≤ 10 ^ 17)

include hpos hsize

/-- The point and zeros in front of the digits. -/
theorem readsFloat_front (z : Nat) :
    ReadsFloat negative ('0' :: '.' :: List.replicate z '0' ++ Text.natural n) := by
  obtain ⟨c, cs, hcs, -, hdigits, hvalue⟩ := natural_cons hpos
  rw [hcs]
  show ReadsFloat negative ('0' :: '.' :: (List.replicate z '0' ++ c :: cs))
  refine readsFloat_zero_point (fun x hx => ?_) (by simp) ?_
  · rcases List.mem_append.mp hx with hx | hx
    · exact isDigit_zeros hx
    · exact hdigits x hx
  · rw [Nat.ofDigitChars_append, Nat.ofDigitChars_replicate_zero, Nat.mul_zero, hvalue]
    exact le_significandLimit hsize

omit hsize in
/-- Zeros and the point behind the digits. -/
theorem readsFloat_behind {z : Nat} (hz : z + 1 + (Text.natural n).length ≤ 17) :
    ReadsFloat negative (Text.natural n ++ List.replicate z '0' ++ ['.', '0']) := by
  obtain ⟨-, hlength⟩ := Decimal.natural_bounds hpos
  obtain ⟨c, cs, hcs, hfirst, hdigits, hvalue⟩ := natural_cons hpos
  rw [hcs] at hz hlength ⊢
  have hjoined : c :: (cs ++ List.replicate z '0') ++ ['0'] =
      c :: cs ++ List.replicate (z + 1) '0' := by
    rw [List.replicate_succ', ← List.cons_append, List.append_assoc]
  show ReadsFloat negative (c :: (cs ++ List.replicate z '0') ++ '.' :: ['0'])
  refine readsFloat_point (fun x hx => ?_) hfirst (List.cons_ne_nil _ _) ?_
  · rw [hjoined] at hx
    rcases List.mem_append.mp hx with hx | hx
    · exact hdigits x hx
    · exact isDigit_zeros hx
  · rw [hjoined, Nat.ofDigitChars_append, hvalue, Nat.ofDigitChars_replicate_zero]
    refine le_significandLimit ?_
    calc 10 ^ (z + 1) * n ≤ 10 ^ (z + 1) * 10 ^ (c :: cs).length :=
          Nat.mul_le_mul_left _ hlength.le
      _ = 10 ^ (z + 1 + (c :: cs).length) := (Nat.pow_add ..).symm
      _ ≤ 10 ^ 17 := Nat.pow_le_pow_right (by decide) hz

/-- The point among the digits. -/
theorem readsFloat_among {k : Nat} (hk : 0 < k) (hlength : k < (Text.natural n).length) :
    ReadsFloat negative ((Text.natural n).take k ++ '.' :: (Text.natural n).drop k) := by
  obtain ⟨c, cs, hcs, hfirst, hdigits, hvalue⟩ := natural_cons hpos
  obtain ⟨k, rfl⟩ : ∃ j, k = j + 1 := ⟨k - 1, by omega⟩
  rw [hcs, List.length_cons] at hlength
  have hjoined : c :: cs.take k ++ cs.drop k = c :: cs := by
    rw [List.cons_append, List.take_append_drop]
  rw [hcs, List.take_succ_cons, List.drop_succ_cons]
  refine readsFloat_point (hjoined ▸ hdigits) hfirst (fun h => ?_) ?_
  · have hshort := List.drop_eq_nil_iff.mp h
    omega
  · rw [hjoined, hvalue]
    exact le_significandLimit hsize

theorem readsFloat_positional {point : Int} (hpoint : point ≤ 16) :
    ReadsFloat negative (Decimal.positional (Text.natural n) point) := by
  rw [Decimal.positional]
  split
  · exact readsFloat_front hpos hsize _
  · dsimp only
    split
    · exact readsFloat_behind hpos (by omega)
    · exact readsFloat_among hpos hsize (by omega) (by omega)

omit hpos hsize in
theorem scientific_cons (c : Char) (cs : List Char) (exponent : Int) :
    Decimal.scientific (c :: cs) ((c :: cs).length + exponent) =
      [c] ++ (if cs = [] then [] else '.' :: cs) ++ exponentText (cs.length + exponent) := by
  have hshift : ((c :: cs).length : Int) + exponent - 1 = cs.length + exponent := by
    rw [List.length_cons]
    omega
  rw [Decimal.scientific, hshift]
  cases cs <;> simp [exponentText, Text.natural]

theorem readsFloat_scientific {exponent : Int} (hexponent : exponent.natAbs ≤ 1000) {x : Float}
    (hscale : scale? n exponent = some x) :
    ReadsFloat negative (Decimal.scientific (Text.natural n)
      ((Text.natural n).length + exponent)) := by
  have hlength : (Text.natural n).length ≤ 18 :=
    (Decimal.length_natural_le_iff (by decide)).mpr (hsize.trans_lt (by decide))
  obtain ⟨c, cs, hcs, hfirst, hdigits, hvalue⟩ := natural_cons hpos
  rw [hcs, List.length_cons] at hlength
  have he : ((cs.length : Int) + exponent).natAbs ≤ exponentLimit := by
    have hlimit : exponentLimit = 2147483647 := rfl
    omega
  have hlimit : Nat.ofDigitChars 10 (c :: cs) 0 ≤ significandLimit :=
    hvalue ▸ le_significandLimit hsize
  rw [hcs, scientific_cons]
  split
  · next hone =>
    subst hone
    refine readsFloat_digit_exponent (hdigits c List.mem_cons_self) hfirst hlimit he (x := x) ?_
    rwa [hvalue, List.length_nil, Nat.cast_zero, Int.zero_add]
  · next hmore =>
    have hshift : 0 - (cs.length : Int) + (cs.length + exponent) = exponent := by omega
    refine readsFloat_point_exponent hdigits hfirst hmore hlimit he (x := x) ?_
    show scale? (Nat.ofDigitChars 10 (c :: cs) 0) _ = some x
    rwa [hvalue, hshift]

end

/-- **The digits of a decimal are read**, in whichever layout. -/
theorem readsFloat_scaled {negative : Bool} {d : Scaled} (hpos : 0 < d.digits)
    (hsize : d.digits ≤ 10 ^ 17) (hexponent : d.exponent.natAbs ≤ 1000)
    {x : Float} (hscale : scale? d.digits d.exponent = some x) :
    ReadsFloat negative (Layout.json.writeScaled d) := by
  rw [Layout.writeScaled]
  split
  · next h => exact readsFloat_positional hpos hsize h.2
  · exact readsFloat_scientific hpos hsize hexponent hscale

/-! ## Floats -/

theorem readMagnitude_first {negative : Bool} {bytes : Bytes} {r : Number × Bytes}
    (h : readMagnitude negative bytes = .ok r) : ∃ b bs, bytes = b :: bs ∧ isDigit b = true := by
  cases bytes with
  | nil => cases h
  | cons b bs =>
    refine ⟨b, bs, rfl, ?_⟩
    by_contra hdigit
    have hzero : b ≠ 48 := fun hb => hdigit (hb ▸ rfl)
    rw [readMagnitude, if_neg hzero, if_neg hdigit] at h
    cases h

theorem readNumber_first {bytes : Bytes} {r : Number × Bytes} (h : readNumber bytes = .ok r) :
    ∃ b bs, bytes = b :: bs ∧ (b = 45 ∨ isDigit b = true) := by
  unfold readNumber at h
  split at h
  · exact ⟨_, _, rfl, .inl rfl⟩
  · obtain ⟨b, bs, hbytes, hdigit⟩ := readMagnitude_first h
    exact ⟨b, bs, hbytes, .inr hdigit⟩

theorem readNumber_signed {negative : Bool} {text : List Char} (h : ReadsFloat negative text) :
    ∃ x, ∀ rest, NumberEnds rest →
      readNumber (encodeChars (if negative then '-' :: text else text) ++ rest) =
        .ok (.float x, rest) := by
  obtain ⟨x, hx⟩ := h
  refine ⟨x, fun rest hrest => ?_⟩
  cases negative with
  | true =>
    rw [if_pos rfl, Utf8.encodeChars_cons, Utf8.utf8EncodeChar_ascii (by decide)]
    exact hx rest hrest
  | false =>
    have hread := hx rest hrest
    rw [if_neg Bool.false_ne_true]
    -- a text that is read without a sign has none
    obtain ⟨b, bs, hbytes, hdigit⟩ := readMagnitude_first hread
    rw [hbytes] at hread ⊢
    rw [readNumber]
    · exact hread
    · intro _ hb
      rw [(List.cons.inj hb).1] at hdigit
      cases hdigit

/-- **Finite floats are read as floats.** -/
theorem readNumber_float {x : Float} {text : List Char} (h : Layout.json.write? x = some text) :
    ∃ y, ∀ rest, NumberEnds rest →
      readNumber (encodeChars text ++ rest) = .ok (.float y, rest) := by
  rw [Layout.write?] at h
  split at h
  · cases h
  · cases h
  · cases h
    have hdigits : ∀ x ∈ ['0'], x.isDigit = true := List.forall_mem_singleton.mpr rfl
    exact readNumber_signed (readsFloat_zero_point hdigits (by decide) (Nat.zero_le _))
  · next b hclass =>
    cases h
    have hvalid := Decimal.valid_of_classify hclass
    obtain ⟨hpos, hsize, hlow, -⟩ := Decimal.shortest_bounds hvalid
    obtain ⟨y, hy⟩ := scale?_shortest hvalid
    have hhigh := Decimal.shortest_exponent_le hvalid
    exact readNumber_signed (readsFloat_scaled hpos hsize (by omega) hy)

end BidFleet.Json
