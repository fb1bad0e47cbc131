import BidFleet.Json.Record
import BidFleet.Proofs.Json.Strings
import BidFleet.Proofs.Text.Decimals

/-!
Integers and their JSON. Reading takes the digits of an integer back to the
integer, with its sign, when what follows them does not go on with the number.
-/

namespace BidFleet.Json

open Utf8 (encodeChars)

/-! ## Digits -/

/-- Whether a number ends before these octets. -/
def NumberEnds (rest : Bytes) : Prop :=
  ∀ b ∈ rest.head?, isDigit b = false ∧ b ≠ 46 ∧ b ≠ 101 ∧ b ≠ 69

theorem numberEnds_nil : NumberEnds [] :=
  fun _ hb => absurd hb (Option.not_mem_none _)

theorem NumberEnds.not_digit {rest : Bytes} (h : NumberEnds rest) :
    startsWithDigit rest = false := by
  cases rest with
  | nil => rfl
  | cons b bs => exact (h b rfl).1

theorem digit_range {c : Char} (h : c.isDigit = true) : 48 ≤ c.toNat ∧ c.toNat ≤ 57 :=
  Char.isDigit_iff_toNat.mp h

/-- The octet of a digit. -/
theorem digit_octet {c : Char} (h : c.isDigit = true) :
    (UInt8.ofNat c.toNat).toNat = c.toNat ∧ isDigit (UInt8.ofNat c.toNat) = true ∧
      digitValue? (UInt8.ofNat c.toNat) = some (c.toNat - 48) := by
  obtain ⟨hlow, hhigh⟩ := digit_range h
  have hnat : (UInt8.ofNat c.toNat).toNat = c.toNat := by
    rw [UInt8.toNat_ofNat', Nat.mod_eq_of_lt (by omega)]
  have h48 : 48 ≤ UInt8.ofNat c.toNat := by
    rw [UInt8.le_iff_toNat_le, hnat]
    exact hlow
  have h57 : UInt8.ofNat c.toNat ≤ 57 := by
    rw [UInt8.le_iff_toNat_le, hnat]
    exact hhigh
  refine ⟨hnat, by simp [isDigit, h48, h57], ?_⟩
  rw [digitValue?, if_pos ⟨h48, h57⟩, hnat]

theorem encodeChars_digits {cs : List Char} (h : ∀ c ∈ cs, c.isDigit = true) :
    encodeChars cs = cs.map (fun c => UInt8.ofNat c.toNat) := by
  refine encodeChars_map (fun c hc => ?_)
  have := digit_range (h c hc)
  omega

/-- Digits are gathered up to the end of the number. -/
theorem gather_digits {limit acc : Nat} {cs : List Char} {rest : Bytes}
    (hdigits : ∀ c ∈ cs, c.isDigit = true) (hlimit : Nat.ofDigitChars 10 cs acc ≤ limit)
    (hrest : startsWithDigit rest = false) :
    gather limit acc (cs.map (fun c => UInt8.ofNat c.toNat) ++ rest) =
      (Nat.ofDigitChars 10 cs acc, rest) := by
  induction cs generalizing acc with
  | nil =>
    rw [List.map_nil, List.nil_append, Nat.ofDigitChars_nil]
    cases rest with
    | nil => rfl
    | cons b bs =>
      have hno : digitValue? b = none := by
        have hb : ¬ (48 ≤ b ∧ b ≤ 57) := by simpa [startsWithDigit, isDigit] using hrest
        rw [digitValue?, if_neg hb]
      simp only [gather, hno]
  | cons c cs ih =>
    obtain ⟨-, -, hvalue⟩ := digit_octet (hdigits c (List.mem_cons_self ..))
    have hstep : 10 * acc + (c.toNat - '0'.toNat) = acc * 10 + (c.toNat - 48) := by
      rw [Nat.mul_comm]
      rfl
    rw [Nat.ofDigitChars_cons, hstep] at hlimit ⊢
    have hle := Text.le_ofDigitChars cs (acc * 10 + (c.toNat - 48))
    simp only [List.map_cons, List.cons_append, gather, hvalue]
    rw [if_pos (by omega)]
    exact ih (fun x hx => hdigits x (List.mem_cons_of_mem _ hx)) hlimit

/-- The digits of a number begin with a zero only when it is zero. -/
theorem natural_head {n : Nat} {c : Char} {cs : List Char} (h : Text.natural n = c :: cs) :
    c ≠ '0' ∨ (n = 0 ∧ cs = []) := by
  induction n using Nat.strongRecOn generalizing c cs with
  | _ n ih =>
    by_cases hn : n < 10
    · rw [Text.natural, Nat.toDigits_of_lt_base hn, List.cons.injEq] at h
      obtain ⟨rfl, rfl⟩ := h
      by_cases hzero : n = 0
      · exact .inr ⟨hzero, rfl⟩
      · exact .inl (fun he => hzero (Nat.digitChar_eq_zero.mp he))
    · have hdigits : Text.natural n = Text.natural (n / 10) ++ [(n % 10).digitChar] :=
        Nat.toDigits_of_base_le (by decide) (Nat.le_of_not_lt hn)
      cases hfront : Text.natural (n / 10) with
      | nil => exact absurd hfront (Text.natural_ne_nil _)
      | cons d ds =>
        rw [hdigits, hfront, List.cons_append, List.cons.injEq] at h
        obtain ⟨rfl, -⟩ := h
        rcases ih (n / 10) (by omega) hfront with hne | ⟨hzero, -⟩
        · exact .inl hne
        · omega

/-! ## Numbers -/

theorem readTail_end {negative : Bool} {n : Nat} {rest : Bytes} (h : NumberEnds rest) :
    readTail negative n rest = .ok (finishInteger negative n, rest) := by
  cases rest with
  | nil => rfl
  | cons b bs =>
    obtain ⟨-, hpoint, he, hE⟩ := h b rfl
    simp [readTail, hpoint, he, hE]

/-- The whole part of a number, its first digit no zero. -/
theorem readMagnitude_digits {c : Char} {cs : List Char} (negative : Bool)
    (hdigits : ∀ x ∈ c :: cs, x.isDigit = true) (hfirst : c ≠ '0')
    (hlimit : Nat.ofDigitChars 10 (c :: cs) 0 ≤ significandLimit) {rest : Bytes}
    (hrest : startsWithDigit rest = false) :
    readMagnitude negative ((c :: cs).map (fun c => UInt8.ofNat c.toNat) ++ rest) =
      readTail negative (Nat.ofDigitChars 10 (c :: cs) 0) rest := by
  have hgather := gather_digits hdigits hlimit hrest
  obtain ⟨hnat, hdigit, -⟩ := digit_octet (hdigits c (List.mem_cons_self ..))
  have h48 : UInt8.ofNat c.toNat ≠ 48 := by
    intro he
    have hc : c.toNat = 48 := by rw [← hnat, he]; rfl
    exact hfirst (by rw [← Char.ofNat_toNat c, hc])
  simp only [List.map_cons, List.cons_append] at hgather ⊢
  simp only [readMagnitude, if_neg h48, hdigit, if_true, hgather, hrest, Bool.false_eq_true,
    if_false]

/-- The whole part zero. -/
theorem readMagnitude_zero (negative : Bool) {rest : Bytes} (hrest : startsWithDigit rest = false) :
    readMagnitude negative (48 :: rest) = readTail negative 0 rest := by
  simp only [readMagnitude, if_true, hrest, Bool.false_eq_true, if_false]

theorem readMagnitude_natural {n : Nat} (negative : Bool) (hn : n ≤ significandLimit)
    {rest : Bytes} (hrest : NumberEnds rest) :
    readMagnitude negative (encodeChars (Text.natural n) ++ rest) =
      .ok (finishInteger negative n, rest) := by
  have hdigits : ∀ c ∈ Text.natural n, c.isDigit = true := fun c hc => Text.isDigit_natural hc
  have hvalue : Nat.ofDigitChars 10 (Text.natural n) 0 = n := Nat.ofDigitChars_ten_toDigits
  rw [encodeChars_digits hdigits]
  cases hcs : Text.natural n with
  | nil => exact absurd hcs (Text.natural_ne_nil n)
  | cons c cs =>
    rw [hcs] at hdigits hvalue
    rcases natural_head hcs with hne | ⟨rfl, rfl⟩
    · rw [readMagnitude_digits negative hdigits hne (hvalue ▸ hn) hrest.not_digit, hvalue]
      exact readTail_end hrest
    · have hc : c = '0' := by
        have : Text.natural 0 = ['0'] := rfl
        rw [this, List.cons.injEq] at hcs
        exact hcs.1.symm
      subst hc
      exact (readMagnitude_zero negative hrest.not_digit).trans (readTail_end hrest)

/-- **Integers survive their digits**, up to 64 bits without and with a sign. -/
theorem readNumber_integer {i : Int} (hlow : -(UInt64.size / 2 : Nat) ≤ i)
    (hhigh : i ≤ significandLimit) {rest : Bytes} (hrest : NumberEnds rest) :
    readNumber (encodeChars (Text.integer i) ++ rest) = .ok (.int i, rest) := by
  cases i with
  | ofNat n =>
    have hread := readMagnitude_natural false (n := n) (Int.ofNat_le.mp hhigh) hrest
    have hdigits : ∀ c ∈ Text.natural n, c.isDigit = true := fun c hc => Text.isDigit_natural hc
    have hfinish : finishInteger false n = .int (Int.ofNat n) := rfl
    rw [hfinish] at hread
    rw [Text.integer]
    rw [encodeChars_digits hdigits] at hread ⊢
    -- the first octet is a digit, and so no sign
    cases hcs : Text.natural n with
    | nil => exact absurd hcs (Text.natural_ne_nil n)
    | cons c cs =>
      rw [hcs] at hread hdigits
      obtain ⟨hnat, -, -⟩ := digit_octet (hdigits c (List.mem_cons_self ..))
      have hrange := digit_range (hdigits c (List.mem_cons_self ..))
      have h45 : UInt8.ofNat c.toNat ≠ 45 := by
        intro he
        have hc : c.toNat = 45 := by rw [← hnat, he]; rfl
        omega
      simp only [List.map_cons, List.cons_append] at hread ⊢
      rw [readNumber]
      · exact hread
      · exact fun _ he => h45 (List.cons.inj he).1
  | negSucc n =>
    have hn : n + 1 ≤ UInt64.size / 2 := by omega
    have hlimit : n + 1 ≤ significandLimit := Nat.le_trans hn (by decide)
    have hread := readMagnitude_natural true hlimit hrest
    have hfinish : finishInteger true (n + 1) = .int (Int.negSucc n) := by
      simp only [finishInteger, if_true]
      rw [if_neg (by omega)]
      rfl
    rw [hfinish] at hread
    rw [Text.integer, Utf8.encodeChars_cons, Utf8.utf8EncodeChar_ascii (by decide)]
    exact hread

/-! ## Decoders -/

/-- An integer begins with its sign or a digit. -/
theorem integer_octets (i : Int) :
    ∃ b bs, encodeChars (Text.integer i) = b :: bs ∧ (b = 45 ∨ isDigit b = true) := by
  cases i with
  | ofNat n =>
    have hdigits : ∀ c ∈ Text.natural n, c.isDigit = true := fun c hc => Text.isDigit_natural hc
    rw [Text.integer, encodeChars_digits hdigits]
    cases hcs : Text.natural n with
    | nil => exact absurd hcs (Text.natural_ne_nil n)
    | cons c cs =>
      rw [hcs] at hdigits
      exact ⟨_, _, rfl, .inr (digit_octet (hdigits c (List.mem_cons_self ..))).2.1⟩
  | negSucc n =>
    rw [Text.integer, Utf8.encodeChars_cons, Utf8.utf8EncodeChar_ascii (by decide)]
    exact ⟨_, _, rfl, .inl rfl⟩

theorem skipBlanks_number {b : UInt8} (h : b = 45 ∨ isDigit b = true) (bs : Bytes) :
    skipBlanks (b :: bs) = b :: bs := by
  have hblank : ∀ x : UInt8, x = 45 ∨ isDigit x = true →
      (x == 32 || x == 10 || x == 9 || x == 13) = false := by
    intro x hx
    simp only [isDigit, Bool.and_eq_true, decide_eq_true_eq, UInt8.le_iff_toNat_le] at hx
    simp only [Bool.or_eq_false_iff, beq_eq_false_iff_ne, ne_eq, ← UInt8.toNat_inj] at hx ⊢
    refine ⟨⟨⟨?_, ?_⟩, ?_⟩, ?_⟩ <;> intro he <;> rw [he] at hx <;> revert hx <;> decide
  rw [skipBlanks, List.dropWhile_cons_of_neg]
  rw [hblank b h]
  exact Bool.false_ne_true

/-- A decoder of integers reads every integer within its bounds. -/
theorem integer_decoder {i low high : Int} (wanted : String) (hlow : low ≤ i) (hhigh : i ≤ high)
    (hlow' : -(UInt64.size / 2 : Nat) ≤ low) (hhigh' : high ≤ significandLimit) (depth : Nat)
    {rest : Bytes} (hrest : NumberEnds rest) :
    Decoder.integer wanted low high depth (encodeChars (Text.integer i) ++ rest) =
      .ok (i, rest) := by
  have hread := readNumber_integer (i := i) (by omega) (by omega) hrest
  obtain ⟨b, bs, hbytes, hfirst⟩ := integer_octets i
  rw [hbytes, List.cons_append] at hread ⊢
  simp only [Decoder.integer, Decoder.number, skipBlanks_number hfirst, if_pos hfirst, hread, bind,
    Except.bind, if_pos (And.intro hlow hhigh)]

theorem int64_integer (n : Int64) (depth : Nat) {rest : Bytes} (hrest : NumberEnds rest) :
    Decoder.int64 depth (encodeChars (Text.integer n.toInt) ++ rest) = .ok (n, rest) := by
  have hlow := n.le_toInt
  have hhigh := n.toInt_lt
  have hread : Decoder.integer "i64" (-9223372036854775808) 9223372036854775807 depth
      (encodeChars (Text.integer n.toInt) ++ rest) = .ok (n.toInt, rest) :=
    integer_decoder "i64" hlow (by omega) (by decide) (by decide) depth hrest
  simp only [Decoder.int64, Decoder.map, hread, Except.map, Int64.ofInt_toInt]

theorem uint64_natural {n : Nat} (h : n < UInt64.size) (depth : Nat) {rest : Bytes}
    (hrest : NumberEnds rest) :
    Decoder.uint64 depth (encodeChars (Text.integer n) ++ rest) = .ok (UInt64.ofNat n, rest) := by
  have hhigh : (n : Int) ≤ UInt64.size - 1 := by
    simp only [UInt64.size] at h ⊢
    omega
  have hread : Decoder.integer "u64" 0 (UInt64.size - 1) depth
      (encodeChars (Text.integer n) ++ rest) = .ok ((n : Int), rest) :=
    integer_decoder "u64" (by omega) hhigh (by decide) (by decide) depth hrest
  simp only [Decoder.uint64, Decoder.map, hread, Except.map, Int.toNat_natCast]

end BidFleet.Json
