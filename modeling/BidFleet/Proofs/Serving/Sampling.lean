import BidFleet.Serving.Host
import Mathlib.Data.Fintype.Prod
import Mathlib.SetTheory.Cardinal.Finite

/-!
What the throttle gate admits. The words that are taken for an outcome are as many for
every outcome, one behind the other (`taken_outcome_iff`), so that of all words that are
taken exactly `percent` in 101 admit. A draw reads up to the first word that is taken and
goes by it (`draw_of_find?`); a higher percentage admits whatever a lower one does.
-/

namespace BidFleet.Serving.Gate

/-! ## Words and outcomes -/

/-- How many words are taken for an outcome. -/
def share : Nat := UInt32.size / outcomes

/-- The first word that stands for an outcome. -/
def firstWord (k : Nat) : Nat := (k * UInt32.size + (outcomes - 1)) / outcomes

theorem outcome_lt (w : UInt32) : outcome w < outcomes := by
  have hw := w.toNat_lt
  simp only [outcome, outcomes, UInt32.size]
  omega

/-- **The words of an outcome** that are taken stand one behind the other. -/
theorem taken_outcome_iff (w : UInt32) (k : Nat) :
    taken w = true ∧ outcome w = k ↔ firstWord k ≤ w.toNat ∧ w.toNat < firstWord k + share := by
  rw [taken, decide_eq_true_iff]
  simp only [outcome, zone, firstWord, share, outcomes, UInt32.size]
  constructor
  · rintro ⟨hzone, rfl⟩
    omega
  · rintro ⟨hfirst, hlast⟩
    -- the window of the outcome first, then the place in the window
    have hlow : k * 4294967296 ≤ w.toNat * 101 := by omega
    have hhigh : w.toNat * 101 < (k + 1) * 4294967296 := by omega
    have hwindow : w.toNat * 101 / 4294967296 = k := Nat.div_eq_of_lt_le hlow hhigh
    omega

/-- All of them are words. -/
theorem firstWord_add_share_le {k : Nat} (h : k < outcomes) : firstWord k + share ≤ UInt32.size := by
  simp only [firstWord, share, outcomes, UInt32.size] at h ⊢
  omega

theorem toNat_wordOf {k i : Nat} (hk : k < outcomes) (hi : i < share) :
    (UInt32.ofNat (firstWord k + i)).toNat = firstWord k + i := by
  have hle := firstWord_add_share_le hk
  have hlt : firstWord k + i < UInt32.size := by omega
  rw [UInt32.toNat_ofNat', Nat.mod_eq_of_lt hlt]

theorem wordOf_taken {k i : Nat} (hk : k < outcomes) (hi : i < share) :
    taken (UInt32.ofNat (firstWord k + i)) = true ∧
      outcome (UInt32.ofNat (firstWord k + i)) = k := by
  rw [taken_outcome_iff, toNat_wordOf hk hi]
  omega

/-- A word that is taken is an outcome and a place among the words of that outcome. -/
def places : {w : UInt32 // taken w = true} ≃ Fin outcomes × Fin share where
  toFun w :=
    have h := (taken_outcome_iff w.1 (outcome w.1)).mp ⟨w.2, rfl⟩
    (⟨outcome w.1, outcome_lt w.1⟩, ⟨w.1.toNat - firstWord (outcome w.1), by omega⟩)
  invFun p := ⟨UInt32.ofNat (firstWord p.1 + p.2), (wordOf_taken p.1.2 p.2.2).1⟩
  left_inv w := by
    have h := (taken_outcome_iff w.1 (outcome w.1)).mp ⟨w.2, rfl⟩
    apply Subtype.ext
    simp only [Nat.add_sub_cancel' h.1, UInt32.ofNat_toNat]
  right_inv p := by
    obtain ⟨hk, hi⟩ := (⟨p.1.2, p.2.2⟩ : p.1.1 < outcomes ∧ p.2.1 < share)
    have houtcome := (wordOf_taken hk hi).2
    ext
    · exact houtcome
    · simp only [houtcome, toNat_wordOf hk hi, Nat.add_sub_cancel_left]

/-- **Every outcome has the same weight.** -/
theorem card_taken (good : Nat → Prop) :
    Nat.card {w : UInt32 // taken w = true ∧ good (outcome w)} =
      Nat.card {k : Fin outcomes // good k} * share := by
  have hplaces : {w : UInt32 // taken w = true ∧ good (outcome w)} ≃
      {k : Fin outcomes // good k} × Fin share :=
    calc {w : UInt32 // taken w = true ∧ good (outcome w)}
      _ ≃ {w : {w : UInt32 // taken w = true} // good (outcome w.1)} :=
        (Equiv.subtypeSubtypeEquivSubtypeInter _ (fun w => good (outcome w))).symm
      _ ≃ {p : Fin outcomes × Fin share // good p.1} :=
        places.subtypeEquiv fun _ => Iff.rfl
      _ ≃ {k : Fin outcomes // good k} × Fin share :=
        Equiv.prodSubtypeFstEquivSubtypeProd (p := fun k : Fin outcomes => good k)
  rw [Nat.card_congr hplaces, Nat.card_prod, Nat.card_fin]

theorem card_at {k : Nat} (h : k < outcomes) : Nat.card {j : Fin outcomes // j.1 = k} = 1 := by
  have hunit : {j : Fin outcomes // j.1 = k} ≃ Unit := {
    toFun := fun _ => ()
    invFun := fun _ => ⟨⟨k, h⟩, rfl⟩
    left_inv := fun j => Subtype.ext (Fin.ext j.2.symm)
    right_inv := fun _ => rfl }
  rw [Nat.card_congr hunit, Nat.card_unique]

theorem card_below {p : Nat} (h : p ≤ outcomes) : Nat.card {k : Fin outcomes // k.1 < p} = p := by
  have hfin : {k : Fin outcomes // k.1 < p} ≃ Fin p := {
    toFun := fun k => ⟨k.1.1, k.2⟩
    invFun := fun k => ⟨⟨k.1, by omega⟩, k.2⟩
    left_inv := fun _ => rfl
    right_inv := fun _ => rfl }
  rw [Nat.card_congr hfin, Nat.card_fin]

/-! ## Drawing -/

/-- **A draw goes by the first word that is taken**, and reads up to it. -/
theorem draw_of_find? {words : List UInt32} {w : UInt32} (h : words.find? taken = some w) :
    draw words = (outcome w, words.findIdx taken + 1) := by
  induction words with
  | nil => cases h
  | cons v vs ih =>
    cases hv : taken v with
    | true =>
      rw [List.find?_cons_of_pos hv] at h
      cases h
      simp [draw, hv, List.findIdx_cons]
    | false =>
      rw [List.find?_cons_of_neg (by simp [hv])] at h
      simp [draw, hv, ih h, List.findIdx_cons]

theorem letsPass_open {percent : UInt8} (h : open100 ≤ percent) (words : List UInt32) :
    letsPass percent words = (true, 0) := by
  rw [letsPass, if_pos h]

theorem letsPass_below {percent : UInt8} (h : percent < open100) (words : List UInt32) :
    letsPass percent words = (decide ((draw words).1 < percent.toNat), (draw words).2) := by
  rw [letsPass, if_neg (UInt8.not_le.mpr h)]

/-- A higher percentage admits whatever a lower one does. -/
theorem letsPass_mono {p q : UInt8} (hpq : p ≤ q) {words : List UInt32}
    (h : (letsPass p words).1 = true) : (letsPass q words).1 = true := by
  rcases UInt8.lt_or_le q open100 with hq | hq
  · rw [letsPass_below (UInt8.lt_of_le_of_lt hpq hq), decide_eq_true_iff] at h
    rw [letsPass_below hq, decide_eq_true_iff]
    exact Nat.lt_of_lt_of_le h hpq
  · rw [letsPass_open hq]

/-- One word that is taken is enough for a decision. -/
theorem letsPass_word {percent : UInt8} (h : percent < open100) {w : UInt32}
    (hw : taken w = true) : (letsPass percent [w]).1 = true ↔ outcome w < percent.toNat := by
  rw [letsPass_below h, draw_of_find? (List.find?_cons_of_pos hw), decide_eq_true_iff]

/-- How many of the words that are taken admit. -/
theorem card_admitted {percent : UInt8} (h : percent < open100) :
    Nat.card {w : UInt32 // taken w = true ∧ (letsPass percent [w]).1 = true} =
      percent.toNat * share := by
  have hle : percent.toNat ≤ outcomes := Nat.le_of_lt (Nat.lt_trans h (by decide))
  have hwords : {w : UInt32 // taken w = true ∧ (letsPass percent [w]).1 = true} ≃
      {w : UInt32 // taken w = true ∧ outcome w < percent.toNat} :=
    Equiv.subtypeEquivRight fun w => and_congr_right (letsPass_word h)
  rw [Nat.card_congr hwords, card_taken (· < percent.toNat), card_below hle]

/-- The gate of a host goes by its throttle and takes the words that it reads. -/
theorem run_passGate {σ : Type} (store : Pool.Store σ) (h : Host σ) :
    passGate.run (Host.answer store) h = ((letsPass h.knobs.throttle h.words).1,
      { h with words := h.words.drop (letsPass h.knobs.throttle h.words).2 }) := by
  change Task.run (Host.answer store) (if h.knobs.throttle ≥ open100 then .done true
    else .ask .draw fun n => .done (decide (n < h.knobs.throttle.toNat))) h = _
  rcases UInt8.lt_or_le h.knobs.throttle open100 with hthrottle | hthrottle
  · rw [if_neg (UInt8.not_le.mpr hthrottle), letsPass_below hthrottle]
    rfl
  · rw [if_pos hthrottle, letsPass_open hthrottle]
    rfl

/-- **The gate admits `percent` outcomes in 101.** The outcomes are the numbers below 101,
and as many words are taken for each of them, so that below 100 exactly `percent` of 101
words that are taken admit. The gate reads up to the first word that is taken, and that
decides. Whatever a percentage admits a higher one does, 0 admits nothing, and from 100 on
everything is admitted without a word. A host does so at its throttle, and keeps the words
that were not read. -/
theorem gate_admits_percent :
    (∀ w, outcome w < outcomes) ∧
    (∀ k < outcomes, Nat.card {w : UInt32 // taken w = true ∧ outcome w = k} = share) ∧
    (∀ percent < open100,
      Nat.card {w : UInt32 // taken w = true ∧ (letsPass percent [w]).1 = true} * outcomes =
        percent.toNat * Nat.card {w : UInt32 // taken w = true}) ∧
    (∀ percent < open100, ∀ words w, words.find? taken = some w →
      letsPass percent words = (decide (outcome w < percent.toNat), words.findIdx taken + 1)) ∧
    (∀ p q, p ≤ q → ∀ words, (letsPass p words).1 = true → (letsPass q words).1 = true) ∧
    (∀ words, (letsPass 0 words).1 = false) ∧
    (∀ percent ≥ open100, ∀ words, letsPass percent words = (true, 0)) ∧
    (∀ (σ : Type) (store : Pool.Store σ) (h : Host σ),
      passGate.run (Host.answer store) h = ((letsPass h.knobs.throttle h.words).1,
        { h with words := h.words.drop (letsPass h.knobs.throttle h.words).2 })) := by
  refine ⟨outcome_lt, ?_, ?_, ?_, fun p q hpq words => letsPass_mono hpq, ?_,
    fun percent => letsPass_open, fun σ => run_passGate⟩
  · intro k hk
    rw [card_taken (· = k), card_at hk, Nat.one_mul]
  · intro percent hpercent
    have hall : Nat.card {w : UInt32 // taken w = true} = outcomes * share := by
      rw [Nat.card_congr places, Nat.card_prod, Nat.card_fin, Nat.card_fin]
    rw [card_admitted hpercent, hall, Nat.mul_assoc, Nat.mul_comm share]
  · intro percent hpercent words w hw
    rw [letsPass_below hpercent, draw_of_find? hw]
  · intro words
    simp [letsPass_below (show (0 : UInt8) < open100 by decide)]

example : letsPass 1 [42524428, 5] = (true, 2) := by
  decide

end BidFleet.Serving.Gate
