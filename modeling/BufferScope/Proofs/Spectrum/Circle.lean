/-
Complex numbers over a field, and the points that divide the circle evenly, for circle functions that
obey the laws of sine and cosine. The complex numbers over an ordered field are a field, and the first
of `n` points is a primitive root of one of order `n`, of which the others are the powers.
-/
import Mathlib.Analysis.SpecialFunctions.Trigonometric.Basic
import Mathlib.RingTheory.RootsOfUnity.PrimitiveRoots
import Mathlib.Tactic
import BufferScope.Complex
import BufferScope.Proofs.Number

namespace BufferScope

/-- Circle functions with the laws of sine and cosine. Only at whole turns is the cosine one. -/
class ExactCircle (K : Type) [Field K] [LinearOrder K] [Circular K] : Prop where
  pi_pos : 0 < (Circular.pi : K)
  cos_sub (x y : K) : Circular.cos (x - y) = Circular.cos x * Circular.cos y + Circular.sin x * Circular.sin y
  sin_sub (x y : K) : Circular.sin (x - y) = Circular.sin x * Circular.cos y - Circular.cos x * Circular.sin y
  cos_quarter : Circular.cos (Circular.pi / 2 : K) = 0
  sin_quarter : Circular.sin (Circular.pi / 2 : K) = 1
  cos_ne_one {x : K} : 0 < x → x < 2 * Circular.pi → Circular.cos x ≠ 1

instance : ExactCircle ℝ where
  pi_pos := Real.pi_pos
  cos_sub := Real.cos_sub
  sin_sub := Real.sin_sub
  cos_quarter := Real.cos_pi_div_two
  sin_quarter := Real.sin_pi_div_two
  cos_ne_one positive less whole :=
    positive.ne' ((Real.cos_eq_one_iff_of_lt_of_lt (by linarith [Real.pi_pos]) less).mp whole)

namespace ExactCircle

variable {K : Type} [Field K] [LinearOrder K] [Circular K] [ExactCircle K]

theorem cos_zero : Circular.cos (0 : K) = 1 := by
  have whole := cos_sub (Circular.pi / 2 : K) (Circular.pi / 2)
  rwa [sub_self, cos_quarter, sin_quarter, mul_zero, mul_one, zero_add] at whole

theorem sin_zero : Circular.sin (0 : K) = 0 := by
  have none := sin_sub (Circular.pi / 2 : K) (Circular.pi / 2)
  rwa [sub_self, cos_quarter, sin_quarter, mul_zero, mul_comm, mul_zero, sub_zero] at none

theorem cos_neg (x : K) : Circular.cos (-x) = Circular.cos x := by
  rw [← zero_sub, cos_sub, cos_zero, sin_zero, one_mul, zero_mul, add_zero]

theorem sin_neg (x : K) : Circular.sin (-x) = -Circular.sin x := by
  rw [← zero_sub, sin_sub, cos_zero, sin_zero, one_mul, zero_mul, zero_sub]

end ExactCircle

namespace Complex

/-! ## Arithmetic -/

section Arithmetic

variable {ρ : Type}

attribute [ext] Complex

instance [Zero ρ] [One ρ] : One (Complex ρ) := ⟨⟨1, 0⟩⟩

instance [Neg ρ] : Neg (Complex ρ) := ⟨fun z => ⟨-z.re, -z.im⟩⟩

@[simp] theorem re_zero [Zero ρ] : (0 : Complex ρ).re = 0 := rfl

@[simp] theorem im_zero [Zero ρ] : (0 : Complex ρ).im = 0 := rfl

@[simp] theorem re_one [Zero ρ] [One ρ] : (1 : Complex ρ).re = 1 := rfl

@[simp] theorem im_one [Zero ρ] [One ρ] : (1 : Complex ρ).im = 0 := rfl

@[simp] theorem re_neg [Neg ρ] (z : Complex ρ) : (-z).re = -z.re := rfl

@[simp] theorem im_neg [Neg ρ] (z : Complex ρ) : (-z).im = -z.im := rfl

@[simp] theorem re_add [Add ρ] (z w : Complex ρ) : (z + w).re = z.re + w.re := rfl

@[simp] theorem im_add [Add ρ] (z w : Complex ρ) : (z + w).im = z.im + w.im := rfl

@[simp] theorem re_mul [Add ρ] [Sub ρ] [Mul ρ] (z w : Complex ρ) : (z * w).re = z.re * w.re - z.im * w.im := rfl

@[simp] theorem im_mul [Add ρ] [Sub ρ] [Mul ρ] (z w : Complex ρ) : (z * w).im = z.re * w.im + z.im * w.re := rfl

instance [CommRing ρ] : CommRing (Complex ρ) where
  add_assoc _ _ _ := by ext <;> exact add_assoc ..
  zero_add _ := by ext <;> exact zero_add _
  add_zero _ := by ext <;> exact add_zero _
  add_comm _ _ := by ext <;> exact add_comm ..
  neg_add_cancel _ := by ext <;> exact neg_add_cancel _
  mul_assoc _ _ _ := by ext <;> simp only [re_mul, im_mul] <;> ring
  mul_comm _ _ := by ext <;> simp only [re_mul, im_mul] <;> ring
  one_mul _ := by ext <;> simp
  mul_one _ := by ext <;> simp
  zero_mul _ := by ext <;> simp
  mul_zero _ := by ext <;> simp
  left_distrib _ _ _ := by ext <;> simp only [re_mul, im_mul, re_add, im_add] <;> ring
  right_distrib _ _ _ := by ext <;> simp only [re_mul, im_mul, re_add, im_add] <;> ring
  nsmul := nsmulRec
  zsmul := zsmulRec

/-- The length of a complex number, squared. -/
def normSq [Add ρ] [Mul ρ] (z : Complex ρ) : ρ := z.re * z.re + z.im * z.im

theorem ofReal_natCast [CommRing ρ] (n : ℕ) : (ofReal (n : ρ) : Complex ρ) = n := by
  induction n with
  | zero => rw [Nat.cast_zero, Nat.cast_zero]; rfl
  | succ n ih =>
    rw [Nat.cast_succ, Nat.cast_succ, ← ih]
    ext <;> simp [ofReal]

theorem scale_eq [CommRing ρ] (z : Complex ρ) (x : ρ) : z.scale x = ofReal x * z := by
  ext <;> simp [scale, ofReal, mul_comm]

end Arithmetic

section Field

variable {K : Type} [Field K] [LinearOrder K] [IsStrictOrderedRing K]

theorem normSq_ne_zero {z : Complex K} (nonzero : z ≠ 0) : normSq z ≠ 0 := by
  intro vanishes
  obtain ⟨re, im⟩ := (mul_self_add_mul_self_eq_zero).mp vanishes
  exact nonzero (Complex.ext re im)

instance : Field (Complex K) where
  inv z := ⟨z.re / normSq z, -z.im / normSq z⟩
  exists_pair_ne := ⟨0, 1, fun same => zero_ne_one (congrArg Complex.re same)⟩
  mul_inv_cancel z nonzero := by
    have length := normSq_ne_zero nonzero
    ext
    · show z.re * (z.re / normSq z) - z.im * (-z.im / normSq z) = 1
      field_simp
      rw [normSq]
      ring
    · show z.re * (-z.im / normSq z) + z.im * (z.re / normSq z) = 0
      ring
  inv_zero := by
    ext
    · exact zero_div _
    · show -0 / normSq (0 : Complex K) = 0
      rw [neg_zero, zero_div]
  nnqsmul := _
  nnqsmul_def _ _ := rfl
  qsmul := _
  qsmul_def _ _ := rfl

instance : CharZero (Complex K) where
  cast_injective m n same := by
    have real := congrArg Complex.re (ofReal_natCast (ρ := K) m ▸ ofReal_natCast (ρ := K) n ▸ same)
    exact Nat.cast_injective real

theorem ofReal_one_div_natCast {n : ℕ} (positive : 0 < n) :
    (ofReal (1 / (n : K)) : Complex K) = (n : Complex K)⁻¹ := by
  have nonzero : (n : K) ≠ 0 := Nat.cast_ne_zero.mpr positive.ne'
  refine eq_inv_of_mul_eq_one_left ?_
  rw [← ofReal_natCast]
  ext
  · show 1 / (n : K) * n - 0 * 0 = 1
    rw [one_div_mul_cancel nonzero, mul_zero, sub_zero]
  · show 1 / (n : K) * 0 + 0 * n = 0
    rw [mul_zero, zero_mul, add_zero]

end Field

/-! ## The circle -/

section Circle

variable {K : Type} [Field K] [Circular K]

/-- The point of the circle at an angle. -/
def atAngle (x : K) : Complex K := ⟨Circular.cos x, Circular.sin x⟩

/-- The first of the points that divide the circle into `n` parts. -/
def root (K : Type) [Field K] [Circular K] (n : ℕ) : Complex K := atAngle ((2 : ℕ) * Circular.pi / n)

theorem root_eq (n : ℕ) : root K n = atAngle (2 * (Circular.pi : K) / n) := by
  rw [root, Nat.cast_ofNat]

variable [LinearOrder K] [ExactCircle K]

open ExactCircle

theorem atAngle_zero : atAngle (0 : K) = 1 := Complex.ext cos_zero sin_zero

theorem atAngle_add (x y : K) : atAngle (x + y) = atAngle x * atAngle y := by
  unfold atAngle
  rw [← sub_neg_eq_add, cos_sub, sin_sub, cos_neg, sin_neg]
  ext
  · simp only [re_mul]
    ring
  · simp only [im_mul]
    ring

theorem atAngle_natCast_mul (k : ℕ) (x : K) : atAngle (k * x) = atAngle x ^ k := by
  induction k with
  | zero => rw [Nat.cast_zero, zero_mul, atAngle_zero, pow_zero]
  | succ k ih => rw [Nat.cast_succ, add_mul, one_mul, atAngle_add, ih, pow_succ]

theorem quarterTurns_eq (z : Complex K) (count : ℕ) :
    z.quarterTurns count = atAngle ((count : K) * (Circular.pi / 2)) * z := by
  induction count with
  | zero => rw [Nat.cast_zero, zero_mul, atAngle_zero, one_mul]; rfl
  | succ count ih =>
    rw [Nat.cast_succ, add_mul, one_mul, atAngle_add, mul_comm (atAngle _), mul_assoc, ← ih]
    unfold atAngle
    rw [cos_quarter, sin_quarter]
    show (z.quarterTurns count).quarterTurn = _
    ext <;> simp [quarterTurn]

/-- A point of the first quarter, also where it is taken from the mirror image. -/
theorem inQuarter_eq [IsStrictOrderedRing K] {num den : ℕ} (inside : num < den) :
    (inQuarter num den : Complex K) = atAngle ((num : K) * (Circular.pi / 2 / den)) := by
  have positive : (den : K) ≠ 0 := Nat.cast_ne_zero.mpr (by omega)
  have angle : ∀ k : ℕ, (Circular.pi * (k : K) / ((2 * den : ℕ) : K)) = (k : K) * (Circular.pi / 2 / den) := by
    intro k
    rw [Nat.cast_mul]
    field_simp
    push_cast
    ring
  unfold inQuarter
  simp only [angle]
  split
  · rfl
  · have mirror : ((den - num : ℕ) : K) * (Circular.pi / 2 / den) =
        Circular.pi / 2 - (num : K) * (Circular.pi / 2 / den) := by
      rw [Nat.cast_sub inside.le]
      field_simp
    rw [mirror, cos_sub, sin_sub, cos_quarter, sin_quarter]
    unfold atAngle
    ext <;> simp

/-- The points of the circle are the powers of the first. -/
theorem onCircle_eq_pow [IsStrictOrderedRing K] {n : ℕ} (positive : 0 < n) (k : ℕ) :
    onCircle n k = root K n ^ (k % n) := by
  have nonzero : (n : K) ≠ 0 := Nat.cast_ne_zero.mpr positive.ne'
  have quarters : ((4 * (k % n) / n : ℕ) : K) * n + ((4 * (k % n) % n : ℕ) : K) = 4 * ((k % n : ℕ) : K) := by
    exact_mod_cast Nat.div_add_mod' (4 * (k % n)) n
  unfold onCircle
  simp only
  rw [root_eq, inQuarter_eq (Nat.mod_lt _ positive), quarterTurns_eq, ← atAngle_add, ← atAngle_natCast_mul]
  congr 1
  field_simp
  rw [quarters]
  ring

/-- Whole quarters of a turn are products with points of the circle, too. -/
theorem quarterTurns_of_whole [IsStrictOrderedRing K] {n k : ℕ} (inside : k < n) (whole : 4 * k % n = 0)
    (z : Complex K) : z.quarterTurns (4 * k / n) = root K n ^ k * z := by
  have positive : 0 < n := by omega
  have point := onCircle_eq_pow (K := K) positive k
  unfold onCircle at point
  simp only at point
  rw [Nat.mod_eq_of_lt inside, whole, inQuarter_eq positive, quarterTurns_eq, Nat.cast_zero, zero_mul, atAngle_zero,
    mul_one] at point
  rw [quarterTurns_eq, point]

theorem root_pow_self [IsStrictOrderedRing K] {n : ℕ} (positive : 0 < n) : root K n ^ n = 1 := by
  have nonzero : (n : K) ≠ 0 := Nat.cast_ne_zero.mpr positive.ne'
  have turn : (n : K) * (2 * Circular.pi / n) = ((4 : ℕ) : K) * (Circular.pi / 2) := by
    push_cast
    field_simp
    ring
  have four := quarterTurns_eq (1 : Complex K) 4
  rw [mul_one] at four
  rw [root_eq, ← atAngle_natCast_mul, turn, ← four]
  ext <;> simp [quarterTurns, quarterTurn]

theorem isPrimitiveRoot_root [IsStrictOrderedRing K] {n : ℕ} (positive : 0 < n) : IsPrimitiveRoot (root K n) n := by
  have size : (0 : K) < n := Nat.cast_pos.mpr positive
  refine IsPrimitiveRoot.mk_of_lt _ positive (root_pow_self positive) fun k first inside whole => ?_
  have angle : (k : K) * (2 * Circular.pi / n) < 2 * Circular.pi := by
    have less : (k : K) < n := Nat.cast_lt.mpr inside
    have := pi_pos (K := K)
    rw [mul_div_assoc', div_lt_iff₀ size, mul_comm]
    gcongr
  refine cos_ne_one ?_ angle ?_
  · have := pi_pos (K := K)
    have : (0 : K) < k := Nat.cast_pos.mpr first
    positivity
  · rw [root_eq, ← atAngle_natCast_mul] at whole
    exact congrArg Complex.re whole

end Circle

end Complex

end BufferScope
