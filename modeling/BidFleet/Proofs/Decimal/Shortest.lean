import BidFleet.Decimal.Shortest
import BidFleet.Proofs.Decimal.Rounding
import BidFleet.Proofs.Text.Decimals
import Mathlib.Tactic.GCongr

/-!
The shortest decimal of a binary64 number. Grids are compared with numbers as rationals
(`grid_le_iff`). A point that reads back is positive and at most half a unit above the
number; one of the two points around the number reads back when the grid is finer than
the interval of the reals that round to it (`onGrid?_ne_none`), which the grid of the
seventeenth digit is. So the search ends with a hit, and the decimal has few
digits and is at most half a unit too much (`shortest_bounds`).
-/

namespace BidFleet.Decimal

/-! ## Finite numbers -/

/-- A significand and an exponent that a number can have. -/
structure Binary.Valid (b : Binary) : Prop where
  pos : 0 < b.significand
  bits : b.significand < 2 ^ 53
  least : -1074 ≤ b.exponent
  most : b.exponent ≤ 971
  narrow : b.narrow = true → b.significand = 2 ^ 52

theorem valid_of_classify {x : Float} {negative : Bool} {b : Binary}
    (h : classify x = .finite negative b) : b.Valid := by
  rw [classify, classOfBits] at h
  have hhidden : hidden = 2 ^ 52 := rfl
  have hfield := Nat.mod_lt (x.toBits.toNat / hidden) (by decide : 0 < 2048)
  have hfraction := Nat.mod_lt x.toBits.toNat (by decide : 0 < hidden)
  split at h
  · split at h <;> cases h
  · split at h
    · split at h
      · cases h
      · cases h
        constructor <;> dsimp only
        case narrow => exact fun hnarrow => absurd hnarrow Bool.false_ne_true
        all_goals omega
    · cases h
      constructor <;> dsimp only
      case narrow =>
        intro hnarrow
        simp only [Bool.and_eq_true, beq_iff_eq] at hnarrow
        omega
      all_goals omega

/-- The number itself. -/
def Binary.value (b : Binary) : ℚ := b.significand * 2 ^ b.exponent

/-- A quarter of the distance to the next number above. -/
def Binary.quarter (b : Binary) : ℚ := 2 ^ (b.exponent - 2)

theorem Binary.quarter_pos (b : Binary) : 0 < b.quarter := zpow_pos two_pos _

theorem Binary.value_eq (b : Binary) : b.value = (4 * b.significand : Nat) * b.quarter := by
  have hunit : (2 : ℚ) ^ b.exponent = 4 * 2 ^ (b.exponent - 2) := by
    rw [zpow_sub₀ two_ne_zero]
    norm_num
    ring
  rw [value, quarter, hunit]
  push_cast
  ring

/-! ## Grids -/

/-- A power with a positive exponent, from one with any. -/
theorem pow_toNat {a : ℚ} (ha : a ≠ 0) (k : Int) : a ^ k.toNat = a ^ k * a ^ (-k).toNat := by
  have hsplit : (k.toNat : Int) = k + ((-k).toNat : Int) := by omega
  rw [← zpow_natCast, ← zpow_natCast, hsplit, zpow_add₀ ha]

theorem scales_pos (q k : Int) : 0 < (scales q k).1 ∧ 0 < (scales q k).2 :=
  ⟨Nat.mul_pos (Nat.pow_pos (by decide)) (Nat.pow_pos (by decide)),
    Nat.mul_pos (Nat.pow_pos (by decide)) (Nat.pow_pos (by decide))⟩

section

variable {b : Binary} {k : Int} {c v : Nat}

theorem cast_unit_pos : (0 : ℚ) < (scales b.exponent k).2 := by
  exact_mod_cast (scales_pos b.exponent k).2

/-- The factor of a grid and that of quarters of units bring both to one measure. -/
theorem grid_eq : (c : ℚ) * (scales b.exponent k).1 * b.quarter =
    c * 10 ^ k * (scales b.exponent k).2 := by
  have hten := pow_toNat (by norm_num : (10 : ℚ) ≠ 0) k
  have htwo := pow_toNat (two_ne_zero : (2 : ℚ) ≠ 0) (b.exponent - 2)
  rw [neg_sub] at htwo
  show (c : ℚ) * ((10 ^ k.toNat * 2 ^ (2 - b.exponent).toNat : Nat) : ℚ) * 2 ^ (b.exponent - 2) =
    c * 10 ^ k * ((10 ^ (-k).toNat * 2 ^ (b.exponent - 2).toNat : Nat) : ℚ)
  push_cast
  rw [hten, htwo]
  ring

/-- Points of a grid are compared with quarters of units. -/
theorem grid_le_iff : c * (scales b.exponent k).1 ≤ v * (scales b.exponent k).2 ↔
    (c : ℚ) * 10 ^ k ≤ v * b.quarter := by
  rw [← Nat.cast_le (α := ℚ), Nat.cast_mul, Nat.cast_mul, ← mul_le_mul_iff_left₀ b.quarter_pos,
    grid_eq, mul_right_comm (v : ℚ), mul_le_mul_iff_left₀ cast_unit_pos]

theorem le_grid_iff : v * (scales b.exponent k).2 ≤ c * (scales b.exponent k).1 ↔
    v * b.quarter ≤ (c : ℚ) * 10 ^ k := by
  rw [← Nat.cast_le (α := ℚ), Nat.cast_mul, Nat.cast_mul, ← mul_le_mul_iff_left₀ b.quarter_pos,
    grid_eq, mul_right_comm (v : ℚ), mul_le_mul_iff_left₀ cast_unit_pos]

theorem grid_lt_iff : c * (scales b.exponent k).1 < v * (scales b.exponent k).2 ↔
    (c : ℚ) * 10 ^ k < v * b.quarter := by
  rw [← not_le, le_grid_iff, not_le]

theorem lt_grid_iff : v * (scales b.exponent k).2 < c * (scales b.exponent k).1 ↔
    v * b.quarter < (c : ℚ) * 10 ^ k := by
  rw [← not_le, grid_le_iff, not_le]

/-- How many quarters below the number the reals end that round to it. -/
def Binary.below (b : Binary) : Nat := if b.narrow then 1 else 2

theorem readsBack_of (hlow : (4 * b.significand - b.below : Nat) * b.quarter < (c : ℚ) * 10 ^ k)
    (hhigh : (c : ℚ) * 10 ^ k < (4 * b.significand + 2 : Nat) * b.quarter) :
    readsBack b k c = true := by
  have hlow' := lt_grid_iff.mpr hlow
  have hhigh' := grid_lt_iff.mpr hhigh
  simp only [readsBack]
  split
  · rw [Bool.and_eq_true, decide_eq_true_eq, decide_eq_true_eq]
    exact ⟨hlow'.le, hhigh'.le⟩
  · rw [Bool.and_eq_true, decide_eq_true_eq, decide_eq_true_eq]
    exact ⟨hlow', hhigh'⟩

/-- A point that reads back is positive and at most half a unit too much. -/
theorem readsBack_bounds (hpos : 0 < b.significand) (h : readsBack b k c = true) :
    0 < c ∧ (c : ℚ) * 10 ^ k ≤ (4 * b.significand + 2 : Nat) * b.quarter := by
  have hbounds : (4 * b.significand - b.below) * (scales b.exponent k).2 ≤
        c * (scales b.exponent k).1 ∧
      c * (scales b.exponent k).1 ≤ (4 * b.significand + 2) * (scales b.exponent k).2 := by
    simp only [readsBack] at h
    split at h
    · rw [Bool.and_eq_true, decide_eq_true_eq, decide_eq_true_eq] at h
      exact h
    · rw [Bool.and_eq_true, decide_eq_true_eq, decide_eq_true_eq] at h
      exact ⟨h.1.le, h.2.le⟩
  refine ⟨Nat.pos_of_ne_zero fun hc => ?_, grid_le_iff.mp hbounds.2⟩
  have hunit := (scales_pos b.exponent k).2
  have hbelow : b.below ≤ 2 := by
    unfold Binary.below
    split <;> omega
  have hlow : 0 < (4 * b.significand - b.below) * (scales b.exponent k).2 :=
    Nat.mul_pos (by omega) hunit
  rw [hc, Nat.zero_mul] at hbounds
  omega

/-! ## Hits -/

/-- The last point of a grid that is not above the number. -/
def pointBelow (b : Binary) (k : Int) : Nat :=
  4 * b.significand * (scales b.exponent k).2 / (scales b.exponent k).1

theorem pointBelow_le : (pointBelow b k : ℚ) * 10 ^ k ≤ b.value := by
  rw [b.value_eq]
  exact grid_le_iff.mp (Nat.div_mul_le_self ..)

theorem lt_pointBelow : b.value < ((pointBelow b k + 1 : Nat) : ℚ) * 10 ^ k := by
  rw [b.value_eq]
  exact lt_grid_iff.mp ((Nat.div_lt_iff_lt_mul (scales_pos ..).1).mp (Nat.lt_succ_self _))

/-- A hit is one of the two points around the number, and reads back. -/
theorem onGrid?_some (h : onGrid? b k = some c) :
    readsBack b k c = true ∧ c ≤ pointBelow b k + 1 := by
  simp only [onGrid?] at h
  rw [← pointBelow] at h
  split at h
  · cases h
  · next hbelow _ =>
    cases h
    exact ⟨hbelow, Nat.le_succ _⟩
  · next _ habove =>
    cases h
    exact ⟨habove, Nat.le_refl _⟩
  · next hbelow habove =>
    split_ifs at h <;> cases h
    · exact ⟨hbelow, Nat.le_succ _⟩
    · exact ⟨habove, Nat.le_refl _⟩
    · exact ⟨hbelow, Nat.le_succ _⟩
    · exact ⟨habove, Nat.le_refl _⟩

theorem onGrid?_none (h : onGrid? b k = none) :
    readsBack b k (pointBelow b k) ≠ true ∧ readsBack b k (pointBelow b k + 1) ≠ true := by
  simp only [onGrid?] at h
  rw [← pointBelow] at h
  split at h
  · next hbelow habove => exact ⟨by rw [hbelow]; decide, by rw [habove]; decide⟩
  · cases h
  · cases h
  · split_ifs at h

/-- A grid that is finer than the interval of the reals that round to the number, or than
the part of it above the number, has a hit. -/
theorem onGrid?_ne_none (hpos : 0 < b.significand)
    (h : (10 : ℚ) ^ k < 2 * b.quarter ∨ b.narrow = false ∧ (10 : ℚ) ^ k < 4 * b.quarter) :
    onGrid? b k ≠ none := by
  intro hnone
  obtain ⟨hbelow, habove⟩ := onGrid?_none hnone
  have hle := pointBelow_le (b := b) (k := k)
  have hlt := lt_pointBelow (b := b) (k := k)
  have hquarter := b.quarter_pos
  rw [b.value_eq] at hle hlt
  -- the point above is too high, and so less than half a unit is left to the point below
  have hhigh : (4 * b.significand + 2 : Nat) * b.quarter ≤
      ((pointBelow b k + 1 : Nat) : ℚ) * 10 ^ k := by
    by_contra hnot
    refine habove (readsBack_of (lt_of_le_of_lt ?_ hlt) (not_le.mp hnot))
    gcongr
    omega
  rw [Nat.cast_add, Nat.cast_add, Nat.cast_one, Nat.cast_two] at hhigh
  rcases h with hfine | ⟨hnarrow, hfine⟩
  · linarith
  · have hlow : (pointBelow b k : ℚ) * 10 ^ k ≤
        (4 * b.significand - b.below : Nat) * b.quarter := by
      by_contra hnot
      refine hbelow (readsBack_of (not_le.mp hnot) (lt_of_le_of_lt hle ?_))
      gcongr
      omega
    have htwo : b.below = 2 := by rw [Binary.below, hnarrow]; rfl
    rw [htwo, Nat.cast_sub (by omega)] at hlow
    push_cast at hlow hhigh hle
    linarith

end

/-! ## The search -/

theorem ten_ne_zero : (10 : ℚ) ≠ 0 := by norm_num

/-- The point before the 340th decimal place is below every number. -/
theorem least_le_value {b : Binary} (hb : b.Valid) : (10 : ℚ) ^ (-340 : Int) ≤ b.value := by
  have hpowers : (2 : ℚ) ^ 1074 ≤ 10 ^ 340 :=
    calc (2 : ℚ) ^ 1074 = (2 ^ 179) ^ 6 := by rw [← pow_mul]
      _ ≤ (10 ^ 54) ^ 6 := by gcongr; norm_num
      _ = 10 ^ 324 := by rw [← pow_mul]
      _ ≤ 10 ^ 340 := pow_le_pow_right₀ (by norm_num) (by decide)
  have hone : (1 : ℚ) ≤ b.significand := by exact_mod_cast hb.pos
  calc (10 : ℚ) ^ (-340 : Int) = (10 ^ 340)⁻¹ := by rw [zpow_neg]; rfl
    _ ≤ (2 ^ 1074)⁻¹ := by gcongr
    _ = 1 * 2 ^ (-1074 : Int) := by rw [zpow_neg, one_mul]; rfl
    _ ≤ b.significand * 2 ^ b.exponent :=
      mul_le_mul hone (zpow_le_zpow_right₀ one_le_two hb.least) (zpow_nonneg zero_le_two _)
        (Nat.cast_nonneg _)

theorem length_natural_le_iff {n k : Nat} (hk : 0 < k) :
    (Text.natural n).length ≤ k ↔ n < 10 ^ k :=
  Nat.length_toDigits_le_iff (by decide) hk

/-- The length of a number tells its size. -/
theorem natural_bounds {n : Nat} (hpos : 0 < n) :
    10 ^ ((Text.natural n).length - 1) ≤ n ∧ n < 10 ^ (Text.natural n).length := by
  have hlength := Text.length_natural_pos n
  refine ⟨Nat.le_of_not_lt fun hsmall => ?_, (length_natural_le_iff hlength).mp (Nat.le_refl _)⟩
  by_cases hone : (Text.natural n).length = 1
  · rw [hone] at hsmall
    exact absurd (Nat.lt_one_iff.mp hsmall) hpos.ne'
  · have hshort := (length_natural_le_iff (by omega)).mpr hsmall
    omega

theorem leadingExponent_eq (b : Binary) :
    leadingExponent b = ((Text.natural (pointBelow b (-340))).length : Int) - 341 := rfl

theorem leadingExponent_ge (b : Binary) : -340 ≤ leadingExponent b := by
  have hlength := Text.length_natural_pos (pointBelow b (-340))
  rw [leadingExponent_eq]
  omega

/-- The leading digit is where it is said to be. -/
theorem leadingExponent_bounds {b : Binary} (hb : b.Valid) :
    (10 : ℚ) ^ leadingExponent b ≤ b.value ∧ b.value < 10 ^ (leadingExponent b + 1) := by
  have hle := pointBelow_le (b := b) (k := -340)
  have hlt := lt_pointBelow (b := b) (k := -340)
  have hpower : (0 : ℚ) < 10 ^ (-340 : Int) := by positivity
  have hpos : 0 < pointBelow b (-340) := by
    refine Nat.pos_of_ne_zero fun hzero => ?_
    rw [hzero, Nat.cast_one, one_mul] at hlt
    exact absurd (least_le_value hb) (not_le.mpr hlt)
  have htop := leadingExponent_eq b
  have hlength := Text.length_natural_pos (pointBelow b (-340))
  obtain ⟨hlow, hhigh⟩ := natural_bounds hpos
  generalize (Text.natural (pointBelow b (-340))).length = length at htop hlength hlow hhigh
  generalize pointBelow b (-340) = n at hle hlt hlow hhigh
  have hlow' : ((10 ^ (length - 1) : Nat) : ℚ) ≤ n := by exact_mod_cast hlow
  have hhigh' : ((n + 1 : Nat) : ℚ) ≤ ((10 ^ length : Nat) : ℚ) := by exact_mod_cast hhigh
  rw [Nat.cast_pow, ← zpow_natCast] at hlow' hhigh'
  constructor
  · calc (10 : ℚ) ^ leadingExponent b = 10 ^ ((length - 1 : Nat) : Int) * 10 ^ (-340 : Int) := by
          rw [← zpow_add₀ ten_ne_zero, htop]
          congr 1
          omega
      _ ≤ n * 10 ^ (-340 : Int) := by gcongr; exact hlow'
      _ ≤ b.value := hle
  · calc b.value < ((n + 1 : Nat) : ℚ) * 10 ^ (-340 : Int) := hlt
      _ ≤ 10 ^ (length : Int) * 10 ^ (-340 : Int) := by gcongr; exact hhigh'
      _ = 10 ^ (leadingExponent b + 1) := by
        rw [← zpow_add₀ ten_ne_zero, htop]
        congr 1
        omega

/-- The grid of the seventeenth digit has a hit. -/
theorem seventeenth_hit {b : Binary} (hb : b.Valid) :
    onGrid? b (leadingExponent b - 16) ≠ none := by
  obtain ⟨hlow, -⟩ := leadingExponent_bounds hb
  have hquarter := b.quarter_pos
  have hgrid : (10 : ℚ) ^ (leadingExponent b - 16) ≤ b.value / 10 ^ 16 :=
    calc (10 : ℚ) ^ (leadingExponent b - 16) = 10 ^ leadingExponent b / 10 ^ 16 := by
          rw [zpow_sub₀ ten_ne_zero]
          rfl
      _ ≤ b.value / 10 ^ 16 := by gcongr
  rw [b.value_eq] at hgrid
  refine onGrid?_ne_none hb.pos ?_
  cases hnarrow : b.narrow with
  | true =>
    rw [hb.narrow hnarrow] at hgrid
    refine .inl (hgrid.trans_lt ?_)
    rw [div_lt_iff₀ (by positivity)]
    norm_num
    linarith
  | false =>
    refine .inr ⟨rfl, hgrid.trans_lt ?_⟩
    have hbits : (b.significand : ℚ) < 2 ^ 53 := by exact_mod_cast hb.bits
    rw [div_lt_iff₀ (by positivity)]
    push_cast
    nlinarith

theorem searchGrids_some {b : Binary} {top : Int} {tries count : Nat} {d : Scaled}
    (h : searchGrids b top tries count = some d) :
    onGrid? b d.exponent = some d.digits ∧ top + 1 - d.exponent < count + tries := by
  induction tries generalizing count with
  | zero => cases h
  | succ tries ih =>
    simp only [searchGrids] at h
    split at h
    · next hhit =>
      cases h
      exact ⟨hhit, by dsimp only; omega⟩
    · obtain ⟨hhit, hlast⟩ := ih h
      exact ⟨hhit, by omega⟩

theorem searchGrids_ne_none {b : Binary} {top : Int} {tries count : Nat}
    (h : onGrid? b (top + 1 - (count + tries : Nat)) ≠ none) :
    searchGrids b top (tries + 1) count ≠ none := by
  induction tries generalizing count with
  | zero =>
    simp only [searchGrids]
    split
    · exact Option.some_ne_none _
    · next hnone => exact absurd hnone h
  | succ tries ih =>
    rw [searchGrids]
    split
    · exact Option.some_ne_none _
    · refine ih ?_
      rwa [Nat.add_right_comm, Nat.add_assoc]

/-- Moving zeros into the exponent keeps the number. -/
theorem stripZeros_spec (fuel : Nat) (d : Scaled) :
    ((stripZeros fuel d).digits : ℚ) * 10 ^ (stripZeros fuel d).exponent =
        d.digits * 10 ^ d.exponent ∧
      (stripZeros fuel d).digits ≤ d.digits ∧ d.exponent ≤ (stripZeros fuel d).exponent ∧
      (0 < d.digits → 0 < (stripZeros fuel d).digits) := by
  induction fuel generalizing d with
  | zero => exact ⟨rfl, Nat.le_refl _, Int.le_refl _, id⟩
  | succ fuel ih =>
    rw [stripZeros]
    split
    · next hzero =>
      obtain ⟨hvalue, hle, hhigher, hpos⟩ := ih ⟨d.digits / 10, d.exponent + 1⟩
      refine ⟨hvalue.trans ?_, hle.trans (Nat.div_le_self ..), by dsimp only at hhigher; omega,
        fun _ => hpos (by dsimp only; omega)⟩
      have hdigits : d.digits = d.digits / 10 * 10 := by omega
      have hcast : (d.digits : ℚ) = ((d.digits / 10 : Nat) : ℚ) * 10 := by exact_mod_cast hdigits
      rw [hcast, zpow_add_one₀ ten_ne_zero]
      ring
    · exact ⟨rfl, Nat.le_refl _, Int.le_refl _, id⟩

/-- **Shortest decimals.** The digits are a positive number of at most `10^17`, and the
decimal is at most half a unit too much. -/
theorem shortest_bounds {b : Binary} (hb : b.Valid) :
    0 < (shortest b).digits ∧ (shortest b).digits ≤ 10 ^ 17 ∧ -357 ≤ (shortest b).exponent ∧
      ((shortest b).digits : ℚ) * 10 ^ (shortest b).exponent ≤
        (4 * b.significand + 2 : Nat) * b.quarter := by
  have hfound : searchGrids b (leadingExponent b) 17 1 ≠ none := by
    refine searchGrids_ne_none ?_
    have hlast : leadingExponent b + 1 - (1 + 16 : Nat) = leadingExponent b - 16 := by omega
    rw [hlast]
    exact seventeenth_hit hb
  obtain ⟨d, hd⟩ := Option.ne_none_iff_exists'.mp hfound
  obtain ⟨hhit, hlast⟩ := searchGrids_some hd
  obtain ⟨hback, habove⟩ := onGrid?_some hhit
  obtain ⟨hpos, hvalue⟩ := readsBack_bounds hb.pos hback
  obtain ⟨hsame, hfewer, hhigher, hpos'⟩ := stripZeros_spec 20 d
  have htop := leadingExponent_ge b
  rw [shortest, hd, Option.getD_some, hsame]
  refine ⟨hpos' hpos, hfewer.trans (habove.trans ?_), by omega, hvalue⟩
  -- the point below the number keeps within the number, which has that many digits
  have hbelow : (pointBelow b d.exponent : ℚ) * 10 ^ d.exponent < 10 ^ 17 * 10 ^ d.exponent :=
    calc (pointBelow b d.exponent : ℚ) * 10 ^ d.exponent ≤ b.value := pointBelow_le
      _ < 10 ^ (leadingExponent b + 1) := (leadingExponent_bounds hb).2
      _ ≤ 10 ^ ((17 : Nat) + d.exponent) := zpow_le_zpow_right₀ (by norm_num) (by omega)
      _ = 10 ^ 17 * 10 ^ d.exponent := by rw [zpow_add₀ ten_ne_zero, zpow_natCast]
  have hcount : (pointBelow b d.exponent : ℚ) < 10 ^ 17 :=
    lt_of_mul_lt_mul_right hbelow (by positivity)
  have : pointBelow b d.exponent < 10 ^ 17 := by exact_mod_cast hcount
  omega

theorem shortest_exponent_le {b : Binary} (hb : b.Valid) : (shortest b).exponent ≤ 312 := by
  obtain ⟨hpos, -, -, hvalue⟩ := shortest_bounds hb
  have hone : (1 : ℚ) ≤ (shortest b).digits := by exact_mod_cast hpos
  have hbits : ((4 * b.significand + 2 : Nat) : ℚ) ≤ 2 ^ 55 := by
    have : 4 * b.significand + 2 ≤ 2 ^ 55 := by have := hb.bits; omega
    exact_mod_cast this
  have hquarter : b.quarter ≤ 2 ^ (969 : Int) := by
    have := hb.most
    exact zpow_le_zpow_right₀ one_le_two (by omega)
  have hpower : (10 : ℚ) ^ (shortest b).exponent ≤ 10 ^ (312 : Int) :=
    calc (10 : ℚ) ^ (shortest b).exponent ≤ (shortest b).digits * 10 ^ (shortest b).exponent :=
          le_mul_of_one_le_left (by positivity) hone
      _ ≤ (4 * b.significand + 2 : Nat) * b.quarter := hvalue
      _ ≤ 2 ^ 55 * 2 ^ (969 : Int) := mul_le_mul hbits hquarter b.quarter_pos.le (by positivity)
      _ = (2 ^ 256) ^ 4 := by
        rw [← pow_mul, ← zpow_natCast, ← zpow_natCast, ← zpow_add₀ two_ne_zero]
        rfl
      _ ≤ (10 ^ 78) ^ 4 := by gcongr; norm_num
      _ = 10 ^ (312 : Int) := by
        rw [← pow_mul, ← zpow_natCast]
        rfl
  exact (zpow_le_zpow_iff_right₀ (by norm_num)).mp hpower

end BidFleet.Decimal
