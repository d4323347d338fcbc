/-
Counting numbers as double-precision numbers, after the logical model of these. Up to `2 ^ 53` the
conversion is exact: the number is shifted to a mantissa of 53 bits, which neither the rounding nor the
product with one at the end of the conversion changes.
-/
import Mathlib
import BufferScope.Number

namespace BufferScope.Binary64

open Float.Model Float.Model.UnpackedFloat

/-! ## Rounding -/

/-- Zeros that are shifted out leave nothing to round. -/
theorem shiftRight_mul_two_pow (m k : ℕ) :
    ((⟨m * 2 ^ k, false, false⟩ : ExtendedMantissa) >>> k) = ⟨m, false, false⟩ := by
  show k.repeat ExtendedMantissa.shiftRightOne _ = _
  induction k generalizing m with
  | zero =>
    rw [pow_zero, mul_one]
    rfl
  | succ k ih =>
    show (k.repeat ExtendedMantissa.shiftRightOne _).shiftRightOne = _
    rw [pow_succ', ← mul_assoc, ih]
    unfold ExtendedMantissa.shiftRightOne
    simp

theorem log2_mul_two_pow {m : ℕ} (low : 2 ^ 52 ≤ m) (high : m < 2 ^ 53) (k : ℕ) : (m * 2 ^ k).log2 = 52 + k := by
  rw [Nat.log2_eq_iff (by positivity)]
  constructor
  · rw [pow_add]
    exact Nat.mul_le_mul_right _ low
  · rw [show 52 + k + 1 = 53 + k by omega, pow_add]
    exact Nat.mul_lt_mul_of_pos_right high (by positivity)

section Normal

variable {m : ℕ} (low : 2 ^ 52 ≤ m) (high : m < 2 ^ 53) {e : ℤ} (above : -1074 ≤ e)

include low high above

/-- A mantissa of 53 bits with zeros behind it is shifted by as many. -/
theorem shiftToTargetExponent_mul_two_pow (k : ℕ) :
    shiftToTargetExponent .binary64 (m * 2 ^ k) (e - k) .exact = (⟨m, false, false⟩, e) := by
  have target : Format.binary64.targetExponent (totalExponent (m * 2 ^ k) (e - k)) = e := by
    unfold Format.targetExponent totalExponent Format.minExponent Format.mantissaBits
    rw [log2_mul_two_pow low high k]
    push_cast
    omega
  have amount : (e - (e - k)).toNat = k := by omega
  unfold shiftToTargetExponent shiftToExponent
  rw [target]
  simp only [amount]
  show ((⟨m * 2 ^ k, false, false⟩ : ExtendedMantissa) >>> k, e - k + k) = _
  rw [shiftRight_mul_two_pow, sub_add_cancel]

/-- Such a mantissa is not rounded. -/
theorem roundWithAccuracy_mul_two_pow (positive : 0 < m) (k : ℕ) :
    roundWithAccuracy .binary64 .positive (m * 2 ^ k) (e - k) .exact = .finite .positive m e positive := by
  have again := shiftToTargetExponent_mul_two_pow low high above 0
  rw [pow_zero, mul_one, Nat.cast_zero, sub_zero] at again
  have rounded : (⟨m, false, false⟩ : ExtendedMantissa).roundedMantissa = m := rfl
  unfold roundWithAccuracy
  simp only [shiftToTargetExponent_mul_two_pow low high above k, rounded, again]
  rw [dif_neg positive.ne']

end Normal

/-! ## Packing -/

/-- The bit of a mantissa that is not packed. -/
theorem toNat_implicit {m : ℕ} (low : 2 ^ 52 ≤ m) (high : m < 2 ^ 53) : (1#1 ++ BitVec.ofNat 52 m).toNat = m := by
  rw [BitVec.toNat_append, ← Nat.shiftLeft_add_eq_or_of_lt (BitVec.isLt _), BitVec.toNat_ofNat, BitVec.toNat_ofNat,
    Nat.shiftLeft_eq]
  omega

/-- A number in normal form comes back from its bits. -/
theorem unpack_pack {m : ℕ} (low : 2 ^ 52 ≤ m) (high : m < 2 ^ 53) {e : ℤ} (above : -1074 ≤ e)
    (below : e ≤ 971) (positive : 0 < m) :
    (Float.Model.pack (.finite .positive m e positive)).unpack = .finite .positive m e positive := by
  have log := log2_mul_two_pow low high 0
  rw [pow_zero, mul_one] at log
  -- the exponent as it is packed
  obtain ⟨b, rfl⟩ : ∃ b : ℕ, e = b - 1075 := ⟨(e + 1075).toNat, by omega⟩
  have packed : UnpackedFloat.pack .binary64 (.finite .positive m (b - 1075) positive) =
      packComponents .binary64 .positive (BitVec.ofNat 11 b) (BitVec.ofNat 52 m) := by
    have exponent : ((b : ℤ) - 1075 + Format.binary64.exponentBias
        + Format.binary64.mantissaBitsWithoutImplicit).toNat = b := by
      show ((b : ℤ) - 1075 + 1023 + 52).toNat = b
      omega
    have full : m.log2 + 1 = Format.binary64.mantissaBits := by
      rw [log]
      rfl
    unfold UnpackedFloat.pack
    simp only [exponent]
    rw [if_neg (show ¬2 ^ 11 ≤ b + 1 by omega), if_pos full]
  have code : (BitVec.ofNat 11 b).toNat = b := by
    rw [BitVec.toNat_ofNat]
    omega
  have finite : BitVec.ofNat 11 b ≠ -1#11 := by
    intro same
    have number := congrArg BitVec.toNat same
    rw [code, show (-1#11).toNat = 2047 by decide] at number
    omega
  have normal : BitVec.ofNat 11 b ≠ 0#11 := by
    intro same
    have number := congrArg BitVec.toNat same
    rw [code, BitVec.toNat_zero] at number
    omega
  show UnpackedFloat.unpack .binary64 (UnpackedFloat.pack .binary64 _) = _
  rw [packed]
  unfold UnpackedFloat.unpack
  simp only [unpackMantissa_packComponents, unpackExponent_packComponents, unpackSign_packComponents]
  rw [if_neg finite, if_neg normal]
  simp only [code, toNat_implicit low high]
  rfl

/-! ## Conversion -/

/-- The mantissa of a number below `2 ^ 53` is the number, shifted to 53 bits. -/
theorem mantissa_bounds {n : ℕ} (positive : 0 < n) (small : n < 2 ^ 53) :
    n.log2 ≤ 52 ∧ 2 ^ 52 ≤ n * 2 ^ (52 - n.log2) ∧ n * 2 ^ (52 - n.log2) < 2 ^ 53 := by
  have log : n.log2 ≤ 52 := by
    have := (Nat.log2_lt positive.ne').mpr small
    omega
  obtain ⟨least, most⟩ := (Nat.log2_eq_iff positive.ne').mp rfl
  refine ⟨log, ?_, ?_⟩
  · calc 2 ^ 52 = 2 ^ n.log2 * 2 ^ (52 - n.log2) := by rw [← pow_add, Nat.add_sub_cancel' log]
      _ ≤ n * 2 ^ (52 - n.log2) := Nat.mul_le_mul_right _ least
  · calc n * 2 ^ (52 - n.log2) < 2 ^ (n.log2 + 1) * 2 ^ (52 - n.log2) :=
          Nat.mul_lt_mul_of_pos_right most (by positivity)
      _ = 2 ^ 53 := by rw [← pow_add]; congr 1; omega

/-- The mantissa is what the number is rounded to. -/
theorem unpacked_ofNat {n : ℕ} (positive : 0 < n) (small : n < 2 ^ 53) (nonzero : 0 < n * 2 ^ (52 - n.log2)) :
    UnpackedFloat.ofNat .binary64 n = .finite .positive (n * 2 ^ (52 - n.log2)) (n.log2 - 52) nonzero := by
  obtain ⟨log, low, high⟩ := mantissa_bounds positive small
  have target : Format.binary64.targetExponent (totalExponent n 0) = n.log2 - 52 := by
    unfold Format.targetExponent totalExponent Format.minExponent Format.mantissaBits
    push_cast
    omega
  have decreased : decreaseExponent n 0 (n.log2 - 52) = (n * 2 ^ (52 - n.log2), (n.log2 : ℤ) - 52) := by
    have amount : ((0 : ℤ) - (n.log2 - 52)).toNat = 52 - n.log2 := by omega
    unfold decreaseExponent
    simp only [amount, Nat.shiftLeft_eq]
    congr 1
    omega
  have above : (-1074 : ℤ) ≤ n.log2 - 52 := by omega
  have exact := roundWithAccuracy_mul_two_pow low high above nonzero 0
  rw [pow_zero, mul_one, Nat.cast_zero, sub_zero] at exact
  have larger : compare (n : ℤ) 0 = .gt := by
    rw [compare_gt_iff_gt]
    omega
  unfold UnpackedFloat.ofNat UnpackedFloat.ofInt UnpackedFloat.normalize
  rw [larger]
  show UnpackedFloat.round .binary64 .positive n 0 = _
  unfold UnpackedFloat.round
  rw [target]
  simp only [decreased]
  exact exact

/-- Every number below `2 ^ 53` but zero has an exact conversion, with a mantissa of 53 bits. -/
theorem unpack_ofNat {n : ℕ} (positive : 0 < n) (small : n < 2 ^ 53) (nonzero : 0 < n * 2 ^ (52 - n.log2)) :
    (Float.ofNat n).toModel.unpack = .finite .positive (n * 2 ^ (52 - n.log2)) (n.log2 - 52) nonzero := by
  obtain ⟨log, low, high⟩ := mantissa_bounds positive small
  have above : (-1074 : ℤ) ≤ n.log2 - 52 := by omega
  have below : (n.log2 : ℤ) - 52 ≤ 971 := by omega
  have word : n.toUInt64.toNat = n := UInt64.toNat_ofNat_of_lt (small.trans (by decide))
  have converted : n.toUInt64.toFloat.toModel.unpack =
      .finite .positive (n * 2 ^ (52 - n.log2)) (n.log2 - 52) nonzero := by
    show (Float.Model.pack (UnpackedFloat.ofNat .binary64 n.toUInt64.toNat)).unpack = _
    rw [word, unpacked_ofNat positive small nonzero]
    exact unpack_pack low high above below nonzero
  have one : (Float.ofBits 0x3FF0000000000000).toModel.unpack = .finite .positive (2 ^ 52) (-52) (by decide) := rfl
  have product : (Float.ofNat n).toModel = (n.toUInt64.toFloat * Float.ofBits 0x3FF0000000000000).toModel := by
    show (Float.ofScientific n false 0).toModel = _
    unfold Float.ofScientific
    rw [dif_pos ⟨small, Nat.zero_le 22⟩]
    rfl
  rw [product]
  show (Float.Model.pack (UnpackedFloat.mul .binary64 _ _)).unpack = _
  rw [converted, one]
  show (Float.Model.pack (roundWithAccuracy .binary64 .positive _ _ .exact)).unpack = _
  have exact := roundWithAccuracy_mul_two_pow low high above nonzero 52
  rw [Nat.cast_ofNat, sub_eq_add_neg] at exact
  rw [exact]
  exact unpack_pack low high above below nonzero

end BufferScope.Binary64

namespace BufferScope

/-- Whole numbers that can be sample rates are finite and positive. -/
class WholeRates (ρ : Type) [NatCast ρ] [Zero ρ] [LT ρ] [RealNumber ρ] : Prop where
  usable (n : ℕ) : 0 < n → n < 2 ^ 32 → RealNumber.isFinite (n : ρ) = true ∧ 0 < (n : ρ)

instance : WholeRates Float where
  usable n positive small := by
    have nonzero : 0 < n * 2 ^ (52 - n.log2) := by positivity
    have unpacked := Binary64.unpack_ofNat positive (by omega) nonzero
    refine ⟨?_, ?_⟩
    · show (Float.ofNat n).toModel.unpack.isFinite = true
      rw [unpacked]
      rfl
    · show decide ((0 : Float).toModel.unpack.lt (Float.ofNat n).toModel.unpack = true) = true
      rw [unpacked]
      rfl

end BufferScope
