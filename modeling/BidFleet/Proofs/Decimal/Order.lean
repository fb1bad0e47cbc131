import Mathlib.Data.Prod.Lex
import Mathlib.Order.Compare

/-!
The order of binary64 numbers. Every number but the undefined one has a rank in a
linear order: first whether it is negative, zero or positive, and infinite or not, then
the exponent, then the significand. Numbers compare as their ranks do
(`compare_eq_ranks`), and the undefined number, which has none, is neither above nor
below anything. So the comparison is transitive, and total on the numbers with a rank.
-/

namespace BidFleet.Decimal

open Float.Model

/-- The kind of a number, its exponent and its significand, the last two turned around
for negative numbers. -/
abbrev Rank := Int ×ₗ Int ×ₗ Int

def rankOf : UnpackedFloat → Option Rank
  | .notANumber => none
  | .infinity .negative => some (toLex (-2, toLex (0, 0)))
  | .finite .negative m e _ => some (toLex (-1, toLex (-e, -(m : Int))))
  | .zero _ => some (toLex (0, toLex (0, 0)))
  | .finite .positive m e _ => some (toLex (1, toLex (e, (m : Int))))
  | .infinity .positive => some (toLex (2, toLex (0, 0)))

/-- The rank of a number; `none` when it is undefined. -/
def rank? (x : Float) : Option Rank := rankOf x.toModel.unpack

/-! ## Comparing ranks -/

theorem compare_cast (m n : Nat) : compare (m : Int) (n : Int) = compare m n := by
  rcases lt_trichotomy m n with h | rfl | h
  · rw [compare_lt_iff_lt.mpr h, compare_lt_iff_lt.mpr (Int.ofNat_lt.mpr h)]
  · rw [Std.compare_self, Std.compare_self]
  · rw [compare_gt_iff_gt.mpr h, compare_gt_iff_gt.mpr (Int.ofNat_lt.mpr h)]

theorem compare_neg (i j : Int) : compare (-i) (-j) = (compare i j).swap := by
  rcases lt_trichotomy i j with h | rfl | h
  · rw [compare_lt_iff_lt.mpr h, compare_gt_iff_gt.mpr (Int.neg_lt_neg h)]
    rfl
  · rw [Std.compare_self, Std.compare_self]
    rfl
  · rw [compare_gt_iff_gt.mpr h, compare_lt_iff_lt.mpr (Int.neg_lt_neg h)]
    rfl

/-- Two numbers compare as their ranks do. -/
theorem compare_eq_ranks (a b : UnpackedFloat) :
    a.compare b = (rankOf a).bind fun r => (rankOf b).map (compare r) := by
  rcases a with (_ | _) | _ | (_ | _) | ⟨_ | _, m, e, hm⟩ <;>
    rcases b with (_ | _) | _ | (_ | _) | ⟨_ | _, n, f, hn⟩
  -- only numbers of the same sign need their exponents and significands
  case finite.negative.finite.negative =>
    show some ((compare e f).then (compare m n)).swap = _
    rw [Ordering.swap_then, ← compare_neg, ← compare_cast, ← compare_neg]
    rfl
  case finite.positive.finite.positive =>
    show some ((compare e f).then (compare m n)) = _
    rw [← compare_cast]
    rfl
  all_goals rfl

/-! ## Comparing numbers -/

theorem le_iff {x y : Float} : x ≤ y ↔ ∃ r ∈ rank? x, ∃ t ∈ rank? y, r ≤ t := by
  have hmodel : x ≤ y ↔ x.toModel.unpack.le y.toModel.unpack = true := decide_eq_true_iff
  rw [hmodel, UnpackedFloat.le, compare_eq_ranks, ← rank?, ← rank?]
  cases rank? x <;> cases rank? y <;> simp [Ordering.isLE_iff_ne_gt, compare_gt_iff_gt]

theorem lt_iff {x y : Float} : x < y ↔ ∃ r ∈ rank? x, ∃ t ∈ rank? y, r < t := by
  have hmodel : x < y ↔ x.toModel.unpack.lt y.toModel.unpack = true := decide_eq_true_iff
  rw [hmodel, UnpackedFloat.lt, compare_eq_ranks, ← rank?, ← rank?]
  cases rank? x <;> cases rank? y <;> simp [compare_lt_iff_lt]

theorem isNaN_iff {x : Float} : x.isNaN = true ↔ rank? x = none := by
  show x.toModel.unpack.isNaN = true ↔ rankOf x.toModel.unpack = none
  rcases x.toModel.unpack with (_ | _) | _ | (_ | _) | ⟨_ | _, m, e, hm⟩
  case notANumber => exact iff_of_true rfl rfl
  all_goals exact iff_of_false Bool.false_ne_true (Option.some_ne_none _)

/-- The rank of a number that is compared with another. -/
theorem rank_of_le {x y : Float} (h : x ≤ y) : ∃ r, rank? y = some r := by
  obtain ⟨_, _, r, hr, _⟩ := le_iff.mp h
  exact ⟨r, hr⟩

theorem float_le_self {x : Float} {r : Rank} (h : rank? x = some r) : x ≤ x :=
  le_iff.mpr ⟨r, h, r, h, le_refl r⟩

theorem float_lt_of_le_of_lt {x y z : Float} (hxy : x ≤ y) (hyz : y < z) : x < z := by
  obtain ⟨r, hr, t, ht, hrt⟩ := le_iff.mp hxy
  obtain ⟨t', ht', u, hu, htu⟩ := lt_iff.mp hyz
  obtain rfl : t = t' := Option.some.inj (ht.symm.trans ht')
  exact lt_iff.mpr ⟨r, hr, u, hu, hrt.trans_lt htu⟩

theorem float_le_of_lt {x y : Float} (h : x < y) : x ≤ y := by
  obtain ⟨r, hr, t, ht, hrt⟩ := lt_iff.mp h
  exact le_iff.mpr ⟨r, hr, t, ht, hrt.le⟩

theorem float_not_lt_of_le {x y : Float} (h : x ≤ y) : ¬y < x := by
  intro hlt
  obtain ⟨r, hr, t, ht, hrt⟩ := lt_iff.mp (float_lt_of_le_of_lt h hlt)
  obtain rfl : r = t := Option.some.inj (hr.symm.trans ht)
  exact hrt.false

/-- Numbers with ranks are comparable. -/
theorem float_lt_of_not_le {x y : Float} {r t : Rank} (hx : rank? x = some r)
    (hy : rank? y = some t) (h : ¬y ≤ x) : x < y := by
  refine lt_iff.mpr ⟨r, hx, t, hy, lt_of_not_ge fun hle => ?_⟩
  exact h (le_iff.mpr ⟨t, hy, r, hx, hle⟩)

/-- The undefined number is above nothing. -/
theorem float_not_le_of_isNaN {x y : Float} (h : y.isNaN = true) : ¬x ≤ y := by
  intro hle
  obtain ⟨r, hr⟩ := rank_of_le hle
  rw [isNaN_iff.mp h] at hr
  cases hr

end BidFleet.Decimal
