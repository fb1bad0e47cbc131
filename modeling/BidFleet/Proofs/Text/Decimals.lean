import BidFleet.Text.Integer

/-!
Decimal numbers and their digits. A reader takes the digits of a number back to
the number whenever the number keeps to the bounds of the reader, and the readers
of natural numbers take nothing but digits, with at most one `+` before them
(`readNatural_iff`).
-/

namespace BidFleet.Text

/-! ## Digits -/

theorem isDigit_natural {n : Nat} {c : Char} (h : c ∈ natural n) : c.isDigit = true :=
  Nat.isDigit_of_mem_toDigits (by decide) (by decide) h

theorem natural_ne_nil (n : Nat) : natural n ≠ [] := Nat.toDigits_ne_nil

theorem length_natural_pos (n : Nat) : 0 < (natural n).length := Nat.length_toDigits_pos

/-- Appending digits does not make a number smaller. -/
theorem le_ofDigitChars (cs : List Char) (acc : Nat) : acc ≤ Nat.ofDigitChars 10 cs acc := by
  induction cs generalizing acc with
  | nil => exact Nat.le_of_eq Nat.ofDigitChars_nil.symm
  | cons c cs ih =>
    rw [Nat.ofDigitChars_cons]
    have := ih (10 * acc + (c.toNat - '0'.toNat))
    omega

/-- A character that stands before digits is no sign. -/
theorem digit_ne_sign {c : Char} (h : c.isDigit = true) : c ≠ '+' ∧ c ≠ '-' :=
  ⟨fun hc => absurd (hc ▸ h) (by decide), fun hc => absurd (hc ▸ h) (by decide)⟩

/-! ## Reading -/

theorem readDigits_eq {bound : Nat} {beyond : IntegerFault} {cs : List Char} {acc : Nat}
    (hdigits : ∀ c ∈ cs, c.isDigit = true) (hbound : Nat.ofDigitChars 10 cs acc ≤ bound) :
    readDigits bound beyond acc cs = .ok (Nat.ofDigitChars 10 cs acc) := by
  induction cs generalizing acc with
  | nil => rw [readDigits, Nat.ofDigitChars_nil]
  | cons c cs ih =>
    have hc : digit? c = some (c.toNat - 48) := by
      rw [digit?, if_pos (hdigits c (List.mem_cons_self ..))]
    have hstep : 10 * acc + (c.toNat - '0'.toNat) = acc * 10 + (c.toNat - 48) := by
      rw [Nat.mul_comm]
      rfl
    rw [Nat.ofDigitChars_cons, hstep] at hbound ⊢
    have hle := le_ofDigitChars cs (acc * 10 + (c.toNat - 48))
    simp only [readDigits, hc]
    rw [if_neg (by omega)]
    exact ih (fun x hx => hdigits x (List.mem_cons_of_mem _ hx)) hbound

theorem readMagnitude_natural {n bound : Nat} (beyond : IntegerFault) (h : n ≤ bound) :
    readMagnitude bound beyond (natural n) = .ok n := by
  have hvalue : Nat.ofDigitChars 10 (natural n) 0 = n := Nat.ofDigitChars_ten_toDigits
  have hread : readDigits bound beyond 0 (natural n) = .ok n := by
    rw [readDigits_eq (fun c hc => isDigit_natural hc) (by rw [hvalue]; exact h), hvalue]
  cases hcs : natural n with
  | nil => exact absurd hcs (natural_ne_nil n)
  | cons c cs => rw [readMagnitude, ← hcs, hread]

theorem readInteger_natural {n below above : Nat} (h : n ≤ above) :
    readInteger below above (natural n) = .ok (n : Int) := by
  have hread := readMagnitude_natural .tooLarge h
  cases hcs : natural n with
  | nil => exact absurd hcs (natural_ne_nil n)
  | cons c cs =>
    have hc : c ∈ natural n := by rw [hcs]; exact List.mem_cons_self ..
    obtain ⟨hplus, hminus⟩ := digit_ne_sign (isDigit_natural hc)
    rw [hcs] at hread
    simp [readInteger, hread, Except.map]

/-- **Integers survive their digits**, within the bounds of the reader. -/
theorem readInteger_integer {i : Int} {below above : Nat} (hlow : -(below : Int) ≤ i)
    (hhigh : i ≤ above) : readInteger below above (integer i) = .ok i := by
  cases i with
  | ofNat n => exact readInteger_natural (Int.ofNat_le.mp hhigh)
  | negSucc n =>
    have hread : readMagnitude below .tooSmall (natural (n + 1)) = .ok (n + 1) :=
      readMagnitude_natural .tooSmall (by omega)
    simp only [integer, readInteger, hread, Except.map]
    rfl

/-- **Signed 64-bit numbers survive their digits.** -/
theorem readInt64_integer (n : Int64) : readInt64 (integer n.toInt) = .ok n := by
  have hlow := n.le_toInt
  have hhigh := n.toInt_lt
  rw [readInt64, readInteger_integer (by simp [UInt64.size]; omega) (by simp [UInt64.size]; omega)]
  simp [Except.map]

/-! ## What is read -/

/-- Digits, with at most one `+` before them, denote a number. -/
def Denotes (text : List Char) (n : Nat) : Prop :=
  ∃ digits, (text = digits ∨ text = '+' :: digits) ∧ digits ≠ [] ∧
    (∀ c ∈ digits, c.isDigit = true) ∧ Nat.ofDigitChars 10 digits 0 = n

theorem readDigits_iff {bound : Nat} {beyond : IntegerFault} {cs : List Char} {acc n : Nat}
    (hacc : acc ≤ bound) : readDigits bound beyond acc cs = .ok n ↔
      (∀ c ∈ cs, c.isDigit = true) ∧ Nat.ofDigitChars 10 cs acc = n ∧ n ≤ bound := by
  constructor
  · intro h
    induction cs generalizing acc with
    | nil =>
      cases h
      exact ⟨by simp, Nat.ofDigitChars_nil, hacc⟩
    | cons c cs ih =>
      have hstep : 10 * acc + (c.toNat - '0'.toNat) = acc * 10 + (c.toNat - 48) := by
        rw [Nat.mul_comm]
        rfl
      rw [readDigits, digit?] at h
      by_cases hc : c.isDigit = true
      · simp only [if_pos hc] at h
        split at h
        · cases h
        · obtain ⟨hdigits, hvalue, hbound⟩ := ih (by omega) h
          refine ⟨List.forall_mem_cons.mpr ⟨hc, hdigits⟩, ?_, hbound⟩
          rw [Nat.ofDigitChars_cons, hstep]
          exact hvalue
      · simp only [if_neg hc] at h
        cases h
  · rintro ⟨hdigits, rfl, hbound⟩
    exact readDigits_eq hdigits hbound

theorem readMagnitude_iff {bound : Nat} {beyond : IntegerFault} {cs : List Char} {n : Nat} :
    readMagnitude bound beyond cs = .ok n ↔
      cs ≠ [] ∧ (∀ c ∈ cs, c.isDigit = true) ∧ Nat.ofDigitChars 10 cs 0 = n ∧ n ≤ bound := by
  cases cs with
  | nil => simp [readMagnitude]
  | cons c cs => simp [readMagnitude, readDigits_iff (Nat.zero_le bound)]

/-- **A natural number is read exactly where digits denote it**, within the bound. -/
theorem readNatural_iff {bound : Nat} {text : List Char} {n : Nat} :
    readNatural bound text = .ok n ↔ Denotes text n ∧ n ≤ bound := by
  constructor
  · intro h
    unfold readNatural at h
    split at h
    case h_1 => cases h
    case h_2 cs =>
      obtain ⟨hne, hdigits, hvalue, hbound⟩ := readMagnitude_iff.mp h
      exact ⟨⟨cs, .inr rfl, hne, hdigits, hvalue⟩, hbound⟩
    case h_3 c cs _ =>
      obtain ⟨hne, hdigits, hvalue, hbound⟩ := readMagnitude_iff.mp h
      exact ⟨⟨c :: cs, .inl rfl, hne, hdigits, hvalue⟩, hbound⟩
  · rintro ⟨⟨digits, htext, hne, hdigits, hvalue⟩, hbound⟩
    have hread : readMagnitude bound .tooLarge digits = .ok n :=
      readMagnitude_iff.mpr ⟨hne, hdigits, hvalue, hbound⟩
    rcases htext with rfl | rfl
    · cases text with
      | nil => exact absurd rfl hne
      | cons c cs =>
        obtain ⟨hplus, -⟩ := digit_ne_sign (hdigits c (List.mem_cons_self ..))
        simp [readNatural, hread]
    · exact hread

/-- **An octet is read exactly where digits denote it.** -/
theorem readUInt8_iff {text : List Char} {b : UInt8} :
    readUInt8 text = .ok b ↔ Denotes text b.toNat := by
  have hb : b.toNat ≤ 255 := Nat.le_of_lt_succ b.toNat_lt
  constructor
  · intro h
    unfold readUInt8 at h
    cases hread : readNatural 255 text with
    | error e =>
      rw [hread] at h
      cases h
    | ok n =>
      rw [hread] at h
      cases h
      obtain ⟨hdenotes, hbound⟩ := readNatural_iff.mp hread
      rw [UInt8.toNat_ofNat', Nat.mod_eq_of_lt (by omega)]
      exact hdenotes
  · intro h
    rw [readUInt8, readNatural_iff.mpr ⟨h, hb⟩]
    simp [Except.map]

/-- A text denotes one number at most: a `+` is no digit. -/
theorem Denotes.unique {text : List Char} {m n : Nat} (hm : Denotes text m)
    (hn : Denotes text n) : m = n := by
  obtain ⟨ds, hds, -, hdigits, rfl⟩ := hm
  obtain ⟨es, hes, -, hdigits', rfl⟩ := hn
  have hplus {cs : List Char} (h : ∀ c ∈ '+' :: cs, c.isDigit = true) : False :=
    absurd (h '+' (List.mem_cons_self ..)) (by decide)
  rcases hds with rfl | rfl <;> rcases hes with h | h
  · rw [h]
  · exact (hplus (h ▸ hdigits)).elim
  · exact (hplus (h ▸ hdigits')).elim
  · rw [(List.cons.inj h).2]

end BidFleet.Text
