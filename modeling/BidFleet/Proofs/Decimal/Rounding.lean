import BidFleet.Json.Numeral
import Mathlib

/-!
Rounding to binary64. A significand with 53 bits or more loses those beyond the 53, and
what is left is at most one unit greater, so the number it is rounded to is hardly greater
than the exact one, and below the greatest number it stays finite (`round_full`). Integers of
64 bits, powers of ten and products are such numbers (`toFloat_full`, `powerOfTen_full`,
`isInf_mul`). A number of 53 bits survives its packing (`unpack_pack`).
-/

namespace BidFleet.Decimal

open Float.Model Float.Model.UnpackedFloat

/-! ## Packing -/

theorem log2_full {m : Nat} (hlow : 2 ^ 52 ≤ m) (hhigh : m < 2 ^ 53) : m.log2 = 52 :=
  (Nat.log2_eq_iff (by omega)).mpr ⟨hlow, hhigh⟩

/-- A finite number with a full significand survives its 64 bits. -/
theorem unpack_pack {s : Sign} {m : Nat} {e : Int} (hm : 0 < m) (hlow : 2 ^ 52 ≤ m)
    (hhigh : m < 2 ^ 53) (he : -1074 ≤ e) (he' : e ≤ 971) :
    (Float.Model.pack (.finite s m e hm)).unpack = .finite s m e hm := by
  have hlog := log2_full hlow hhigh
  show unpack Format.binary64 (UnpackedFloat.pack Format.binary64 (.finite s m e hm)) = _
  have hfield : e + (Format.binary64.exponentBias : Int) +
      (Format.binary64.mantissaBitsWithoutImplicit : Int) = ((e + 1075).toNat : Int) := by
    show e + 1023 + 52 = _
    omega
  have hbits : 2 ^ Format.binary64.exponentBits = 2048 := rfl
  have hwidth : m.log2 + 1 = Format.binary64.mantissaBits := by
    rw [hlog]
    rfl
  have hexponent : (BitVec.ofNat 11 (e + 1075).toNat).toNat = (e + 1075).toNat := by
    rw [BitVec.toNat_ofNat, Nat.mod_eq_of_lt (by omega)]
  have hneg : BitVec.ofNat 11 (e + 1075).toNat ≠ -1#11 := fun h => by
    have := hexponent.symm.trans (congrArg BitVec.toNat h)
    have : (-1#11).toNat = 2047 := rfl
    omega
  have hzero : BitVec.ofNat 11 (e + 1075).toNat ≠ 0#11 := fun h => by
    have := hexponent.symm.trans (congrArg BitVec.toNat h)
    have : (0#11).toNat = 0 := rfl
    omega
  have hleading : (1#1 ++ BitVec.ofNat 52 m).toNat = m := by
    rw [BitVec.toNat_append, ← Nat.shiftLeft_add_eq_or_of_lt (BitVec.isLt _)]
    show 2 ^ 52 + m % 2 ^ 52 = m
    omega
  have hback : ((e + 1075).toNat : Int) - ((Format.binary64.exponentBias : Int) +
      (Format.binary64.mantissaBitsWithoutImplicit : Int)) = e := by
    show ((e + 1075).toNat : Int) - (1023 + 52) = e
    omega
  have hbelow : ¬2048 ≤ (e + 1075).toNat + 1 := by omega
  simp only [UnpackedFloat.pack, hfield, Int.toNat_natCast, hbits, if_neg hbelow, hwidth, if_true]
  simp only [UnpackedFloat.unpack, unpackExponent_packComponents, unpackMantissa_packComponents,
    unpackSign_packComponents, hneg, hzero, if_false, hexponent, hleading, hback,
    Sign.ofBitVec_toBitVec]

/-! ## Rounding -/

theorem mantissa_shift (em : ExtendedMantissa) (k : Nat) :
    (em >>> k).mantissa = em.mantissa / 2 ^ k := by
  show (Nat.repeat ExtendedMantissa.shiftRightOne k em).mantissa = _
  induction k with
  | zero => rw [Nat.repeat, Nat.pow_zero, Nat.div_one]
  | succ k ih =>
    show (Nat.repeat ExtendedMantissa.shiftRightOne k em).mantissa / 2 = _
    rw [ih, Nat.div_div_eq_div_mul, Nat.pow_succ]

theorem roundedMantissa_bounds (em : ExtendedMantissa) :
    em.mantissa ≤ em.roundedMantissa ∧ em.roundedMantissa ≤ em.mantissa + 1 := by
  obtain ⟨m, roundBit, stickyBit⟩ := em
  cases roundBit <;> cases stickyBit <;>
    simp only [ExtendedMantissa.roundedMantissa, ExtendedMantissa.accuracy,
      Accuracy.roundToNearestEven] <;>
    omega

/-- A significand with enough bits loses those beyond the 53 that a number has. -/
theorem shift_full {m : Nat} {e : Int} (hm : 52 ≤ m.log2) (he : -1074 ≤ e + (m.log2 - 52 : Nat))
    (accuracy : Accuracy) :
    ∃ em, shiftToTargetExponent Format.binary64 m e accuracy = (em, e + (m.log2 - 52 : Nat)) ∧
      em.mantissa = m / 2 ^ (m.log2 - 52) := by
  have htarget : Format.binary64.targetExponent (totalExponent m e) = e + (m.log2 - 52 : Nat) := by
    show max ((m.log2 : Int) + 1 + e - (1 + 52)) (3 - 1024 - (1 + 52)) = _
    omega
  have hshift : (e + (m.log2 - 52 : Nat) - e).toNat = m.log2 - 52 := by omega
  simp only [shiftToTargetExponent, shiftToExponent, htarget, hshift]
  refine ⟨_, rfl, ?_⟩
  rw [mantissa_shift]
  cases accuracy with
  | exact => rfl
  | inexact o => cases o <;> rfl

/-- The first bits of a significand, as many as a number has. -/
theorem div_full {m : Nat} (hm : 52 ≤ m.log2) :
    2 ^ 52 ≤ m / 2 ^ (m.log2 - 52) ∧ m / 2 ^ (m.log2 - 52) < 2 ^ 53 := by
  have hpos : m ≠ 0 := fun h => by simp [h] at hm
  obtain ⟨hlow, hhigh⟩ := (Nat.log2_eq_iff hpos).mp rfl
  have hsplit : m.log2 = 52 + (m.log2 - 52) := by omega
  have hsplit' : m.log2 + 1 = 53 + (m.log2 - 52) := by omega
  rw [Nat.le_div_iff_mul_le (Nat.two_pow_pos _), Nat.div_lt_iff_lt_mul (Nat.two_pow_pos _),
    ← Nat.pow_add, ← Nat.pow_add, ← hsplit, ← hsplit']
  exact ⟨hlow, hhigh⟩

/-- A positive number with all of its 53 bits, an exponent between the bounds, and its value. -/
inductive Full (low high : Int) : UnpackedFloat → ℚ → Prop
  | of {m : Nat} {e : Int} (hm : 0 < m) (hleast : 2 ^ 52 ≤ m) (hmost : m < 2 ^ 53) (hlow : low ≤ e)
      (hhigh : e ≤ high) : Full low high (.finite .positive m e hm) (m * 2 ^ e)

theorem Full.unpack_pack {low high : Int} {u : UnpackedFloat} {v : ℚ} (h : Full low high u v)
    (hlow : -1074 ≤ low) (hhigh : high ≤ 971) : (Float.Model.pack u).unpack = u := by
  cases h with
  | of hm hleast hmost hlow' hhigh' =>
    exact Decimal.unpack_pack hm hleast hmost (hlow.trans hlow') (hhigh'.trans hhigh)

theorem Full.pos {low high : Int} {u : UnpackedFloat} {v : ℚ} (h : Full low high u v) : 0 < v := by
  cases h with
  | of hm => exact mul_pos (by exact_mod_cast hm) (zpow_pos two_pos _)

theorem Full.mono {low high low' : Int} {u : UnpackedFloat} {v : ℚ} (h : Full low high u v)
    (hlow : low' ≤ low) : Full low' high u v := by
  cases h with
  | of hm hleast hmost hlow' hhigh => exact .of hm hleast hmost (hlow.trans hlow') hhigh

theorem Full.isInf {low high : Int} {u : UnpackedFloat} {v : ℚ} (h : Full low high u v) :
    u.isInf = false := by
  cases h
  rfl

/-- The value of the last bit that is kept. -/
theorem unit_le {m : Nat} (e : Int) (hm : 52 ≤ m.log2) :
    (2 : ℚ) ^ (e + (m.log2 - 52 : Nat)) ≤ m * 2 ^ e * 2 ^ (-52 : Int) := by
  have hpos : m ≠ 0 := fun h => by simp [h] at hm
  have hm' : (2 : ℚ) ^ m.log2 ≤ m := by exact_mod_cast Nat.log2_self_le hpos
  have hexponent : e + ((m.log2 - 52 : Nat) : Int) = (m.log2 : Int) + e + -52 := by omega
  rw [hexponent, zpow_add₀ two_ne_zero, zpow_add₀ two_ne_zero, zpow_natCast]
  gcongr

/-- The bits that are kept are no more than all. -/
theorem kept_le (m : Nat) (e : Int) (k : Nat) :
    ((m / 2 ^ k : Nat) : ℚ) * 2 ^ (e + k) ≤ m * 2 ^ e := by
  have hdiv : ((m / 2 ^ k * 2 ^ k : Nat) : ℚ) ≤ m := by exact_mod_cast Nat.div_mul_le_self ..
  rw [Nat.cast_mul, Nat.cast_pow, Nat.cast_two] at hdiv
  calc ((m / 2 ^ k : Nat) : ℚ) * 2 ^ (e + k)
      = ((m / 2 ^ k : Nat) : ℚ) * 2 ^ k * 2 ^ e := by
        rw [zpow_add₀ two_ne_zero, zpow_natCast]
        ring
    _ ≤ m * 2 ^ e := by gcongr

/-- Rounding up may carry into one more bit, but only from the greatest significand, so a
bound on the number bounds its exponent. -/
theorem exponent_le {kept r : Nat} {last high : Int} (hleast : 2 ^ 52 ≤ kept)
    (hmost : kept < 2 ^ 53) (hlow : kept ≤ r) (hup : r ≤ kept + 1)
    (h : (kept : ℚ) * 2 ^ last < (2 ^ 53 - 1) * 2 ^ high) :
    last + ((r.log2 - 52 : Nat) : Int) ≤ high := by
  by_contra hnot
  refine absurd h (not_lt.mpr ?_)
  by_cases hcarry : r < 2 ^ 53
  · have hlog : r.log2 = 52 := log2_full (by omega) hcarry
    have hkept : (2 : ℚ) ^ 52 ≤ kept := by exact_mod_cast hleast
    calc ((2 : ℚ) ^ 53 - 1) * 2 ^ high ≤ 2 ^ 53 * 2 ^ high := by
          gcongr
          linarith
      _ = 2 ^ 52 * 2 ^ (high + 1) := by
          rw [zpow_add_one₀ two_ne_zero]
          ring
      _ ≤ kept * 2 ^ last := by
          gcongr
          · exact one_le_two
          · omega
  · have hpower : r = 2 ^ 53 := by omega
    have hlog : r.log2 = 53 := by rw [hpower, Nat.log2_two_pow]
    have hkept : (2 : ℚ) ^ 53 - 1 ≤ kept := by
      have hcarried : 2 ^ 53 ≤ kept + 1 := by omega
      have hcarried' : (2 : ℚ) ^ 53 ≤ kept + 1 := by exact_mod_cast hcarried
      linarith
    gcongr
    · exact one_le_two
    · omega

/-- **Rounding.** What enough bits are rounded to has 53 of them and is hardly greater.
Its exponent stays within a bound when the bits are less than the greatest significand
of 53 with that exponent. -/
theorem round_full {m : Nat} {e high : Int} (hm : 52 ≤ m.log2)
    (he : -1074 ≤ e + (m.log2 - 52 : Nat))
    (hhigh : (m : ℚ) * 2 ^ e < (2 ^ 53 - 1) * 2 ^ high) :
    ∃ v, Full (e + (m.log2 - 52 : Nat)) high
      (roundWithAccuracy Format.binary64 .positive m e .exact) v ∧
      v ≤ m * 2 ^ e * (1 + 2 ^ (-52 : Int)) := by
  have hunit := unit_le e hm
  have hkept := kept_le m e (m.log2 - 52)
  obtain ⟨em, hfirst, hem⟩ := shift_full hm he .exact
  obtain ⟨hleast, hmost⟩ := div_full hm
  obtain ⟨hlow, hup⟩ := roundedMantissa_bounds em
  rw [hem] at hlow hup
  rw [roundWithAccuracy, hfirst]
  dsimp only
  generalize em.roundedMantissa = r at hlow hup ⊢
  generalize e + ((m.log2 - 52 : Nat) : Int) = last at he hunit hkept ⊢
  generalize m / 2 ^ (m.log2 - 52) = kept at hleast hmost hlow hup hkept
  -- rounding up may give a bit more, which the second shift takes away
  have hr : 52 ≤ r.log2 := (Nat.le_log2 (by omega)).mpr (by omega)
  have hlast : -1074 ≤ last + (r.log2 - 52 : Nat) := by omega
  obtain ⟨em', hsecond, hem'⟩ := shift_full hr hlast .exact
  obtain ⟨hleast', hmost'⟩ := div_full hr
  have hhigh' := exponent_le hleast hmost hlow hup (hkept.trans_lt hhigh)
  rw [hsecond]
  dsimp only
  rw [hem', dif_neg (by omega)]
  refine ⟨_, .of (by omega) hleast' hmost' (by omega) hhigh', ?_⟩
  have hup' : (r : ℚ) ≤ kept + 1 := by exact_mod_cast hup
  calc ((r / 2 ^ (r.log2 - 52) : Nat) : ℚ) * 2 ^ (last + (r.log2 - 52 : Nat))
      ≤ r * 2 ^ last := kept_le r last (r.log2 - 52)
    _ ≤ (kept + 1) * 2 ^ last := by gcongr
    _ = kept * 2 ^ last + 2 ^ last := by ring
    _ ≤ m * 2 ^ e + m * 2 ^ e * 2 ^ (-52 : Int) := add_le_add hkept hunit
    _ = m * 2 ^ e * (1 + 2 ^ (-52 : Int)) := by ring

/-! ## Conversions and products -/

/-- The greatest finite number. -/
def greatest : Nat := (2 ^ 53 - 1) * 2 ^ 971

theorem cast_greatest : (greatest : ℚ) = (2 ^ 53 - 1) * 2 ^ (971 : Int) := by
  have hpower : (2 : ℚ) ^ (971 : Int) = 2 ^ 971 := zpow_natCast 2 971
  rw [greatest, Nat.cast_mul, Nat.cast_pow, Nat.cast_two, hpower, Nat.cast_sub (by decide)]
  norm_num only

/-- The number that an integer with enough bits in front of the point is rounded to. -/
theorem round_integer {m n k : Nat} (hm : m = n * 2 ^ k) (hpos : 0 < n) (hbits : 52 ≤ m.log2)
    (hk : k ≤ 53) (hfits : n < greatest) :
    ∃ v, Full (-52) 971 (Float.Model.pack
      (roundWithAccuracy Format.binary64 .positive m (-(k : Int)) .exact)).unpack v ∧
      v ≤ n * (1 + 2 ^ (-52 : Int)) := by
  have hvalue : (m : ℚ) * 2 ^ (-(k : Int)) = n := by
    rw [hm, Nat.cast_mul, Nat.cast_pow, Nat.cast_two, mul_assoc, ← zpow_natCast,
      ← zpow_add₀ two_ne_zero, add_neg_cancel, zpow_zero, mul_one]
  have hlog : k ≤ m.log2 :=
    (Nat.le_log2 (hm ▸ Nat.mul_ne_zero hpos.ne' (Nat.two_pow_pos k).ne')).mpr
      (hm ▸ Nat.le_mul_of_pos_left _ hpos)
  have hfits' : (m : ℚ) * 2 ^ (-(k : Int)) < (2 ^ 53 - 1) * 2 ^ (971 : Int) := by
    rw [hvalue, ← cast_greatest]
    exact_mod_cast hfits
  obtain ⟨v, hfull, hv⟩ := round_full hbits (by omega) hfits'
  have hfull' : Full (-52) 971 _ v := hfull.mono (by omega)
  rw [hfull'.unpack_pack (by decide) (by decide)]
  exact ⟨v, hfull', hvalue ▸ hv⟩

/-- The number that a positive integer of 64 bits is rounded to. -/
theorem toFloat_full {n : Nat} (hpos : 0 < n) (hn : n < 2 ^ 64) :
    ∃ v, Full (-52) 971 n.toUInt64.toFloat.toModel.unpack v ∧ v ≤ n * (1 + 2 ^ (-52 : Int)) := by
  have hnat : n.toUInt64.toNat = n := Nat.mod_eq_of_lt hn
  have hcompare : compare (n : Int) 0 = .gt := Int.compare_eq_gt.mpr (by omega)
  have htarget : Format.binary64.targetExponent (totalExponent n 0) = (n.log2 : Int) - 52 := by
    show max ((n.log2 : Int) + 1 + 0 - (1 + 52)) (3 - 1024 - (1 + 52)) = _
    omega
  have hshift : (-((n.log2 : Int) - 52)).toNat = 52 - n.log2 := by omega
  have hmodel : n.toUInt64.toFloat.toModel = Float.Model.pack (roundWithAccuracy Format.binary64
      .positive (n <<< (52 - n.log2)) (-((52 - n.log2 : Nat) : Int)) .exact) := by
    show Float.Model.pack
      (UnpackedFloat.normalize Format.binary64 (n.toUInt64.toNat : Int) 0 .positive) = _
    rw [hnat, UnpackedFloat.normalize, hcompare]
    simp only [UnpackedFloat.round, Int.toNat_natCast, htarget, decreaseExponent, Int.zero_sub,
      hshift]
  have hbits : 52 ≤ (n <<< (52 - n.log2)).log2 := by
    rw [Nat.shiftLeft_eq]
    refine (Nat.le_log2 (Nat.mul_ne_zero hpos.ne' (Nat.two_pow_pos _).ne')).mpr ?_
    calc 2 ^ 52 ≤ 2 ^ (n.log2 + (52 - n.log2)) := Nat.pow_le_pow_right two_pos (by omega)
      _ = 2 ^ n.log2 * 2 ^ (52 - n.log2) := Nat.pow_add ..
      _ ≤ n * 2 ^ (52 - n.log2) := Nat.mul_le_mul_right _ (Nat.log2_self_le hpos.ne')
  have hfits : n < greatest := hn.trans (by decide +kernel)
  rw [hmodel]
  exact round_integer (Nat.shiftLeft_eq ..) hpos hbits (by omega) hfits

/-- Whether a number is the `n`-th power of ten or less. -/
def isPowerOfTen (n : Nat) : UnpackedFloat → Bool
  | .finite .positive m e _ =>
    2 ^ 52 ≤ m && m < 2 ^ 53 && -52 ≤ e && e ≤ 971 && m * 2 ^ (e + 52).toNat ≤ 10 ^ n * 2 ^ 52
  | _ => false

theorem small_powers : ∀ n < 23, isPowerOfTen n (Json.powerOfTen n).toModel.unpack = true := by
  decide +kernel

/-- Small powers of ten are exact. -/
theorem powerOfTen_small {n : Nat} (hn : n < 23) :
    ∃ v, Full (-52) 971 (Json.powerOfTen n).toModel.unpack v ∧ v ≤ 10 ^ n := by
  have hpower := small_powers n hn
  generalize (Json.powerOfTen n).toModel.unpack = u at hpower
  cases u with
  | finite s m e hm =>
    cases s with
    | positive =>
      simp only [isPowerOfTen, Bool.and_eq_true, decide_eq_true_eq] at hpower
      obtain ⟨⟨⟨⟨hleast, hmost⟩, hlow⟩, hhigh⟩, hvalue⟩ := hpower
      refine ⟨_, .of hm hleast hmost hlow hhigh, ?_⟩
      have hexponent : ((e + 52).toNat : Int) = e + 52 := Int.toNat_of_nonneg (by omega)
      have hvalue' : (m : ℚ) * 2 ^ (e + 52) ≤ 10 ^ n * 2 ^ 52 := by
        rw [← hexponent, zpow_natCast]
        exact_mod_cast hvalue
      rw [zpow_add₀ two_ne_zero, ← mul_assoc] at hvalue'
      exact le_of_mul_le_mul_right hvalue' (by positivity)
    | negative => cases hpower
  | infinity | notANumber | zero => cases hpower

/-- Great powers of ten are rounded from all of their bits. -/
theorem powerOfTen_toModel {n : Nat} (hn : 23 ≤ n) (hn' : n ≤ 308) :
    (Json.powerOfTen n).toModel = Float.Model.pack (roundWithAccuracy Format.binary64
      .positive (1 <<< 53 * 10 ^ n) (-((53 : Nat) : Int)) .exact) := by
  have hscientific : (Json.powerOfTen n).toModel =
      Float.Model.pack (UnpackedFloat.ofScientific Format.binary64 1 n) := by
    rw [Json.powerOfTen, Float.ofScientific, dif_neg (by omega)]
    rfl
  have hhigh : ¬((n : Int) > 2 ^ Format.binary64.exponentBits) := by
    show ¬((n : Int) > 2048)
    omega
  have hlow : ¬((n : Int) < -((2 ^ Format.binary64.exponentBits : Int) + Nat.log2 1)) := by
    show ¬((n : Int) < -(2048 + 0))
    omega
  rw [hscientific, UnpackedFloat.ofScientific, dif_neg one_ne_zero, if_neg hhigh, if_neg hlow,
    if_pos (Int.natCast_nonneg n)]
  rfl

/-- The number that a power of ten is rounded to. -/
theorem powerOfTen_full {n : Nat} (hn : n ≤ 308) :
    ∃ v, Full (-52) 971 (Json.powerOfTen n).toModel.unpack v ∧
      v ≤ 10 ^ n * (1 + 2 ^ (-52 : Int)) := by
  by_cases hsmall : n < 23
  · obtain ⟨v, hfull, hv⟩ := powerOfTen_small hsmall
    exact ⟨v, hfull, hv.trans (le_mul_of_one_le_right (by positivity) (by norm_num))⟩
  · have hgreatest : 10 ^ 154 * 10 ^ 154 < greatest := by decide +kernel
    have hfits : 10 ^ n < greatest :=
      calc 10 ^ n ≤ 10 ^ (154 + 154) := Nat.pow_le_pow_right (by decide) hn
        _ = 10 ^ 154 * 10 ^ 154 := Nat.pow_add ..
        _ < greatest := hgreatest
    have hten : 0 < 10 ^ n := Nat.pow_pos (by decide)
    have hbits : 52 ≤ (1 <<< 53 * 10 ^ n).log2 := (Nat.le_log2 (by omega)).mpr (by omega)
    have hround := round_integer (Nat.mul_comm ..) hten hbits (le_refl 53) hfits
    rw [powerOfTen_toModel (not_lt.mp hsmall) hn]
    rwa [Nat.cast_pow] at hround

/-- A product below the greatest number is finite. -/
theorem isInf_mul {x y : Float} {v w : ℚ} (hx : Full (-52) 971 x.toModel.unpack v)
    (hy : Full (-52) 971 y.toModel.unpack w) (h : v * w < greatest) : (x * y).isInf = false := by
  have hproduct : (x * y).isInf = (Float.Model.pack (UnpackedFloat.mul Format.binary64
      x.toModel.unpack y.toModel.unpack)).unpack.isInf := rfl
  rw [hproduct]
  generalize x.toModel.unpack = a at hx
  generalize y.toModel.unpack = b at hy
  cases hx with
  | @of m e hm hleast hmost hlow hhigh =>
    cases hy with
    | @of n f hn hleast' hmost' hlow' hhigh' =>
      have hbits : 104 ≤ (m * n).log2 :=
        (Nat.le_log2 (Nat.mul_ne_zero hm.ne' hn.ne')).mpr
          (Nat.mul_le_mul hleast hleast' : 2 ^ 52 * 2 ^ 52 ≤ m * n)
      have hvalue : ((m * n : Nat) : ℚ) * 2 ^ (e + f) = m * 2 ^ e * (n * 2 ^ f) := by
        rw [Nat.cast_mul, zpow_add₀ two_ne_zero]
        ring
      rw [← hvalue, cast_greatest] at h
      obtain ⟨v, hfull, -⟩ := round_full (by omega) (by omega) h
      show (Float.Model.pack (roundWithAccuracy Format.binary64 .positive (m * n) (e + f)
        .exact)).unpack.isInf = false
      rw [hfull.unpack_pack (by omega) (by decide)]
      exact hfull.isInf

end BidFleet.Decimal
