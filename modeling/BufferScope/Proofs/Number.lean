/-
Numbers read exactly: sums as loops add them up, the circle functions of the real numbers, rounding to whole
numbers, and samples that are exchanged with reals without a loss.
-/
import Mathlib.Algebra.BigOperators.Fin
import Mathlib.Analysis.SpecialFunctions.Trigonometric.Basic
import BufferScope.Number

namespace BufferScope

theorem foldl_add_eq_sum {ρ : Type} [AddCommMonoid ρ] (n : ℕ) (term : Fin n → ρ) :
    Fin.foldl n (fun sum i => sum + term i) 0 = ∑ i, term i := by
  induction n with
  | zero => simp
  | succ n ih => rw [Fin.foldl_succ_last, ih, Fin.sum_univ_castSucc]

/-! ## Samples -/

/-- Samples that stand for their reals without rounding. Silence is zero, and all samples are finite. -/
class ExactSample (ρ : Type) (σ : outParam Type) [Zero ρ] [Sample ρ σ] : Prop where
  widen_narrow (x : ρ) : Sample.widen (Sample.narrow x : σ) = x
  widen_silence : Sample.widen (Sample.silence ρ : σ) = (0 : ρ)
  isFinite_eq (s : σ) : Sample.isFinite ρ s = true

/-- Samples that come back from their reals as they were, if they are finite. -/
class LosslessSample (ρ : Type) (σ : outParam Type) [Sample ρ σ] : Prop where
  narrow_widen (s : σ) : Sample.isFinite ρ s = true → Sample.narrow (Sample.widen s : ρ) = s

/-! ## Rounding -/

/-- Numbers that are all finite, and whose halves are rounded away from zero. -/
class ExactNumber (K : Type) [Field K] [LinearOrder K] [FloorRing K] [RealNumber K] : Prop where
  isFinite_eq (x : K) : RealNumber.isFinite x = true
  round_eq (x : K) : RealNumber.round x = if x < 0 then -⌊-x + 1 / 2⌋ else ⌊x + 1 / 2⌋

namespace ExactNumber

variable {K : Type} [Field K] [LinearOrder K] [IsStrictOrderedRing K] [FloorRing K] [RealNumber K] [ExactNumber K]

theorem le_round {n : ℤ} {x : K} (above : (n : K) ≤ x) : n ≤ RealNumber.round x := by
  rw [round_eq]
  split
  · rw [le_neg, ← Int.lt_add_one_iff, Int.floor_lt]
    push_cast
    linarith
  · rw [Int.le_floor]
    linarith

theorem round_le {n : ℤ} {x : K} (below : x ≤ n) : RealNumber.round x ≤ n := by
  rw [round_eq]
  split
  · rw [neg_le, Int.le_floor]
    push_cast
    linarith
  · rw [← Int.lt_add_one_iff, Int.floor_lt]
    push_cast
    linarith

end ExactNumber

/-! ## Rational numbers -/

instance : RealNumber ℚ where
  isFinite _ := true
  round x := if x < 0 then -round (-x) else round x
  shown x := Float.ofInt x.num / Float.ofNat x.den

instance : ExactNumber ℚ where
  isFinite_eq _ := rfl
  round_eq x := by
    show (if x < 0 then -round (-x) else round x) = _
    rw [round_eq, round_eq]

instance : Sample ℚ ℚ where
  silence := 0
  widen := id
  narrow := id
  isFinite _ := true
  shown := RealNumber.shown

instance : ExactSample ℚ ℚ where
  widen_narrow _ := rfl
  widen_silence := rfl
  isFinite_eq _ := rfl

/-! ## Real numbers -/

noncomputable instance : Circular ℝ where
  pi := Real.pi
  sin := Real.sin
  cos := Real.cos

noncomputable instance : RealNumber ℝ where
  isFinite _ := true
  round x := if x < 0 then -round (-x) else round x
  shown x := Float.ofInt ⌊x⌋

instance : ExactNumber ℝ where
  isFinite_eq _ := rfl
  round_eq x := by
    show (if x < 0 then -round (-x) else round x) = _
    rw [round_eq, round_eq]

noncomputable instance : Sample ℝ ℝ where
  silence := 0
  widen := id
  narrow := id
  isFinite _ := true
  shown := RealNumber.shown

instance : ExactSample ℝ ℝ where
  widen_narrow _ := rfl
  widen_silence := rfl
  isFinite_eq _ := rfl

instance : LosslessSample ℝ ℝ where
  narrow_widen _ _ := rfl

end BufferScope
