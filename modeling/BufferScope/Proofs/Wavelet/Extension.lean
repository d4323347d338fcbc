/-
The extended signal: inside it is the signal, and outside it can only get so large. Only the smooth
extension leaves the range of the signal, and it grows by no more than twice the signal's peak with
each step past an edge.
-/
import Mathlib.Algebra.Order.Field.Basic
import Mathlib.Tactic
import BufferScope.Wavelet.Extension

namespace BufferScope.Wavelet

/-- Inside, the extended signal is the signal. -/
theorem Extension.sampleAt_inside {ρ : Type} [Add ρ] [Sub ρ] [Mul ρ] [Zero ρ] [NatCast ρ] (mode : Extension)
    (signal : Array ρ) (nonempty : 0 < signal.size) (n : ℕ) (inside : n < signal.size) :
    mode.sampleAt signal nonempty n = signal[n] := by
  unfold sampleAt
  rw [dif_pos ⟨by omega, by omega⟩]
  rfl

variable {K : Type} [Field K] [LinearOrder K]

/-! ## The peak of a signal -/

/-- The largest size of a sample. -/
def peak (signal : Array K) : K := signal.foldr (fun sample most => max |sample| most) 0

theorem foldr_max_nonneg (samples : List K) : 0 ≤ samples.foldr (fun sample most => max |sample| most) 0 := by
  induction samples with
  | nil => exact le_refl 0
  | cons s rest ih => exact le_max_of_le_right ih

theorem abs_le_foldr_max (samples : List K) :
    ∀ s ∈ samples, |s| ≤ samples.foldr (fun sample most => max |sample| most) 0 := by
  induction samples with
  | nil => intro s hs; cases hs
  | cons x rest ih =>
    intro s hs
    rcases List.mem_cons.mp hs with rfl | hs
    · exact le_max_left _ _
    · exact le_max_of_le_right (ih s hs)

theorem peak_nonneg (signal : Array K) : 0 ≤ peak signal := by
  unfold peak
  rw [← Array.foldr_toList]
  exact foldr_max_nonneg _

theorem abs_getElem_le_peak (signal : Array K) (i : ℕ) (inside : i < signal.size) : |signal[i]| ≤ peak signal := by
  unfold peak
  rw [← Array.foldr_toList]
  exact abs_le_foldr_max _ _ (by simp)

/-- No sample is larger than the peak, and the peak is no larger than that. -/
theorem peak_le {signal : Array K} {bound : K} (positive : 0 ≤ bound) (small : ∀ s ∈ signal, |s| ≤ bound) :
    peak signal ≤ bound := by
  have below : ∀ samples : List K, (∀ s ∈ samples, |s| ≤ bound) →
      samples.foldr (fun sample most => max |sample| most) 0 ≤ bound := by
    intro samples
    induction samples with
    | nil => exact fun _ => positive
    | cons s rest ih =>
      exact fun small => max_le (small s List.mem_cons_self) (ih fun t later => small t (.tail _ later))
  unfold peak
  rw [← Array.foldr_toList]
  exact below _ fun s member => small s (Array.mem_toList_iff.mp member)

/-! ## Past the edges -/

variable [IsStrictOrderedRing K]

/-- A line that starts between the bounds and rises by at most their distance per step. -/
theorem abs_line_le {a b bound : K} (ha : |a| ≤ bound) (hb : |b| ≤ bound) {steps reach : ℕ}
    (near : steps ≤ reach) :
    |a + steps * (a - b)| ≤ (1 + 2 * reach) * bound := by
  have positive : 0 ≤ bound := (abs_nonneg a).trans ha
  have rise : |a - b| ≤ 2 * bound := by
    calc |a - b| ≤ |a| + |b| := abs_sub a b
      _ ≤ 2 * bound := by linarith
  have close : (steps : K) ≤ reach := by exact_mod_cast near
  calc |a + steps * (a - b)| ≤ |a| + |(steps : K) * (a - b)| := abs_add_le _ _
    _ = |a| + steps * |a - b| := by rw [abs_mul, Nat.abs_cast]
    _ ≤ bound + reach * (2 * bound) := by gcongr
    _ = (1 + 2 * reach) * bound := by ring

theorem peak_le_grown (signal : Array K) (reach : ℕ) : peak signal ≤ (1 + 2 * reach) * peak signal := by
  have := peak_nonneg signal
  have : 0 ≤ (reach : K) * peak signal := by positivity
  linarith

/-- At most `reach` steps outside, an extended signal is at most `1 + 2 · reach` times its peak. -/
theorem abs_sampleAt_le (mode : Extension) (signal : Array K) (nonempty : 0 < signal.size) {i : ℤ} {reach : ℕ}
    (low : -reach ≤ i) (high : i ≤ (signal.size - 1 : ℕ) + reach) :
    |mode.sampleAt signal nonempty i| ≤ (1 + 2 * reach) * peak signal := by
  have sample : ∀ k (inside : k < signal.size), |signal[k]| ≤ (1 + 2 * reach) * peak signal := fun k inside =>
    (abs_getElem_le_peak signal k inside).trans (peak_le_grown signal reach)
  unfold Extension.sampleAt
  simp only
  split
  · exact sample _ _
  · cases mode with
    | zero =>
      rw [abs_zero]
      exact (peak_nonneg signal).trans (peak_le_grown signal reach)
    | constant =>
      simp only
      split
      · exact sample _ _
      · exact sample _ _
    | smooth =>
      simp only
      split
      · exact sample _ _
      · -- past either edge, a line through the two samples next to it
        split
        · exact abs_line_le (abs_getElem_le_peak ..) (abs_getElem_le_peak ..) (by omega)
        · exact abs_line_le (abs_getElem_le_peak ..) (abs_getElem_le_peak ..) (by omega)
    | symmetric =>
      simp only
      split
      · exact sample _ _
      · exact sample _ _

end BufferScope.Wavelet
