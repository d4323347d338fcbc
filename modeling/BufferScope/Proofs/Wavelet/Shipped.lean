/-
How far the banks that come with the library are from perfect reconstruction. Their taps are decimal
numbers rounded to doubles, so a signal does not come back exactly; read with the exact values of
the taps, every sample comes back to within a billionth of the signal's peak, under every extension
and at both edges. The error is a sum over even lags: the filter's deviation from an orthonormal one
at that lag, times a sample of the extension, which grows with the lag.
-/
import BufferScope.Proofs.Decimal.Value
import BufferScope.Proofs.Wavelet.Extension
import BufferScope.Proofs.Wavelet.RoundTrip

namespace BufferScope.Wavelet

open Decimal (exactValue)

/-! ## Nearly orthonormal filters -/

section Deviation

variable {K : Type} [Field K] [LinearOrder K] {taps : ℕ}

/-- How far a filter's autocorrelation at even lags is from that of an orthonormal filter, each lag
weighted by how much an extension can grow within it. -/
noncomputable def deviation (scaling : Vector K taps) : K :=
  ∑ d ∈ evenLags taps, |autocorrelation scaling d - if d = 0 then 1 else 0| * (1 + 2 * d.natAbs)

variable [IsStrictOrderedRing K]

/-- Inside the signal, the weighted extension is off by at most the deviation times the peak. -/
theorem abs_weighted_sub_le (positive : 0 < taps) (scaling : Vector K taps) (mode : Extension) (signal : Array K)
    (nonempty : 0 < signal.size) (n : ℕ) (inside : n < signal.size) :
    |weighted scaling mode signal nonempty n - signal[n]| ≤ deviation scaling * peak signal := by
  have split : weighted scaling mode signal nonempty n - signal[n] =
      ∑ d ∈ evenLags taps,
        (autocorrelation scaling d - if d = 0 then 1 else 0) * mode.sampleAt signal nonempty (n + d) := by
    -- a sample is its own extension under weights of one at lag zero and none elsewhere
    have centre : signal[n] =
        ∑ d ∈ evenLags taps, (if d = 0 then 1 else 0) * mode.sampleAt signal nonempty (n + d) := by
      rw [Finset.sum_eq_single_of_mem 0 (zero_mem_evenLags positive)]
      · rw [if_pos rfl, one_mul, add_zero, Extension.sampleAt_inside]
      · intro d _ nonzero
        rw [if_neg nonzero, zero_mul]
    unfold weighted
    rw [centre, ← Finset.sum_sub_distrib]
    exact Finset.sum_congr rfl fun d _ => by ring
  rw [split]
  calc |∑ d ∈ evenLags taps,
          (autocorrelation scaling d - if d = 0 then 1 else 0) * mode.sampleAt signal nonempty (n + d)|
      ≤ ∑ d ∈ evenLags taps,
          |(autocorrelation scaling d - if d = 0 then 1 else 0) * mode.sampleAt signal nonempty (n + d)| :=
        Finset.abs_sum_le_sum_abs _ _
    _ ≤ ∑ d ∈ evenLags taps,
          |autocorrelation scaling d - if d = 0 then 1 else 0| * (1 + 2 * d.natAbs) * peak signal := by
        refine Finset.sum_le_sum fun d _ => ?_
        rw [abs_mul, mul_assoc]
        exact mul_le_mul_of_nonneg_left (abs_sampleAt_le mode signal nonempty (by omega) (by omega)) (abs_nonneg _)
    _ = deviation scaling * peak signal := by
        unfold deviation
        rw [Finset.sum_mul]

end Deviation

/-! ## Taps read as other numbers -/

theorem tapAt_map {ρ σ : Type} [CommRing ρ] [CommRing σ] (f : ρ →+* σ) {taps : ℕ}
    (filter : Vector ρ taps) (k : ℤ) :
    tapAt (filter.map f) k = f (tapAt filter k) := by
  unfold tapAt
  split
  · rw [Vector.getElem_map]
  · rw [map_zero]

theorem autocorrelation_map {ρ σ : Type} [CommRing ρ] [CommRing σ] (f : ρ →+* σ) {taps : ℕ}
    (filter : Vector ρ taps) (d : ℤ) : autocorrelation (filter.map f) d = f (autocorrelation filter d) := by
  unfold autocorrelation
  rw [map_sum]
  refine Finset.sum_congr rfl fun t _ => ?_
  rw [map_mul, tapAt_map]
  simp

/-- The deviation of rational taps is the same in every field. -/
theorem deviation_map_cast (K : Type) [Field K] [LinearOrder K] [IsStrictOrderedRing K] {taps : ℕ}
    (scaling : Vector ℚ taps) : deviation (scaling.map (Rat.castHom K)) = (deviation scaling : ℚ) := by
  unfold deviation
  rw [Rat.cast_sum]
  refine Finset.sum_congr rfl fun d _ => ?_
  rw [autocorrelation_map, Rat.coe_castHom]
  split
  · push_cast
    rfl
  · push_cast
    rfl

/-- A bank keeps its shape when its taps are read as other numbers, provided the reading respects
the signs of the scaling filter. -/
theorem FilterBank.map_ofScaling {ρ σ : Type} [Neg ρ] [Neg σ] (f : ρ → σ) (name : String) {taps : ℕ}
    (scaling : Vector ρ taps) (signs : ∀ tap ∈ scaling, f (-tap) = -f tap) :
    (FilterBank.ofScaling name scaling).map f = .ofScaling name (scaling.map f) := by
  have mirrored : (FilterBank.mirror scaling).map f = FilterBank.mirror (scaling.map f) := by
    unfold FilterBank.mirror
    apply Vector.ext
    intro k inside
    rw [Vector.getElem_map, Vector.getElem_ofFn, Vector.getElem_ofFn]
    split
    · exact (Vector.getElem_map ..).symm
    · rw [Vector.getElem_map]
      exact signs _ (Vector.getElem_mem (by omega))
  unfold FilterBank.ofScaling FilterBank.map
  simp only [← mirrored, Vector.map_reverse]

/-! ## The banks by name -/

/-- Every bank of the library is that of a scaling filter of even length whose exact taps deviate from
orthonormality by less than a billionth. -/
theorem exists_scaling (bank : FilterBank Float) (shipped : bank ∈ [haar, db2, db3]) :
    ∃ (taps : ℕ) (scaling : Vector Float taps), bank = .ofScaling bank.name scaling ∧ Even taps ∧ 0 < taps ∧
      (∀ tap ∈ scaling, exactValue (-tap) = -exactValue tap) ∧
      deviation (scaling.map exactValue) ≤ 1 / 10 ^ 9 := by
  simp only [List.mem_cons, List.not_mem_nil, or_false] at shipped
  rcases shipped with rfl | rfl | rfl
  · exact ⟨2, _, rfl, by decide, by decide, by decide +kernel, by decide +kernel⟩
  · exact ⟨4, _, rfl, by decide, by decide, by decide +kernel, by decide +kernel⟩
  · exact ⟨6, _, rfl, by decide, by decide, by decide +kernel, by decide +kernel⟩

/-- Read with its exact taps in any field, every bank of the library is that of a nearly orthonormal
filter. -/
theorem exists_exact_scaling (K : Type) [Field K] [LinearOrder K] [IsStrictOrderedRing K] (bank : FilterBank Float)
    (shipped : bank ∈ [haar, db2, db3]) :
    ∃ (taps : ℕ) (scaling : Vector K taps),
      (bank.map fun tap => (exactValue tap : K)) = .ofScaling bank.name scaling ∧ Even taps ∧ 0 < taps ∧
      deviation scaling ≤ 1 / 10 ^ 9 := by
  obtain ⟨taps, scaling, same, even, positive, signs, near⟩ := exists_scaling bank shipped
  refine ⟨taps, (scaling.map exactValue).map (Rat.castHom K), ?_, even, positive, ?_⟩
  · rw [same, FilterBank.map_ofScaling _ _ _ fun tap member => by rw [signs tap member, Rat.cast_neg], Vector.map_map]
    rfl
  · rw [deviation_map_cast]
    calc ((deviation (scaling.map exactValue) : ℚ) : K) ≤ ((1 / 10 ^ 9 : ℚ) : K) := Rat.cast_le.mpr near
      _ = 1 / 10 ^ 9 := by norm_num

/-- A nearly orthonormal filter changes each sample by at most its deviation times the peak. -/
theorem exists_near_roundTrip {K : Type} [Field K] [LinearOrder K] [IsStrictOrderedRing K] (name : String) {taps : ℕ}
    (even : Even taps) (positive : 0 < taps) (scaling : Vector K taps) (mode : Extension) (signal : Array K)
    (nonempty : 0 < signal.size) :
    ∃ bands reconstruction, decompose (.ofScaling name scaling) mode signal = .ok bands ∧
      reconstruct (.ofScaling name scaling) bands = .ok reconstruction ∧
      ∃ whole : signal.size ≤ reconstruction.size,
        ∀ n (inside : n < signal.size), |reconstruction[n] - signal[n]| ≤ deviation scaling * peak signal := by
  obtain ⟨bands, reconstruction, split, joined, size, samples⟩ :=
    exists_roundTrip name even scaling mode signal nonempty
  have whole : signal.size ≤ reconstruction.size := by
    rw [size]
    split <;> omega
  refine ⟨bands, reconstruction, split, joined, whole, fun n inside => ?_⟩
  rw [samples n (by omega)]
  exact abs_weighted_sub_le positive scaling mode signal nonempty n inside

/-- Under every bank of the library with its exact taps, every extension and every non-empty signal,
decomposing and putting together succeeds, loses no sample, and changes each by at most a billionth
of the signal's peak. -/
theorem abs_reconstruct_sub_le {K : Type} [Field K] [LinearOrder K] [IsStrictOrderedRing K] (bank : FilterBank Float)
    (shipped : bank ∈ [haar, db2, db3]) (mode : Extension) (signal : Array K) (nonempty : 0 < signal.size) :
    ∃ bands reconstruction,
      decompose (bank.map fun tap => (exactValue tap : K)) mode signal = .ok bands ∧
      reconstruct (bank.map fun tap => (exactValue tap : K)) bands = .ok reconstruction ∧
      ∃ whole : signal.size ≤ reconstruction.size,
        ∀ n (inside : n < signal.size), |reconstruction[n] - signal[n]| ≤ peak signal / 10 ^ 9 := by
  obtain ⟨taps, scaling, exact_bank, even, positive, small⟩ := exists_exact_scaling K bank shipped
  obtain ⟨bands, reconstruction, split, joined, whole, near⟩ :=
    exists_near_roundTrip bank.name even positive scaling mode signal nonempty
  rw [exact_bank]
  refine ⟨bands, reconstruction, split, joined, whole, fun n inside => ?_⟩
  calc |reconstruction[n] - signal[n]| ≤ deviation scaling * peak signal := near n inside
    _ ≤ 1 / 10 ^ 9 * peak signal := mul_le_mul_of_nonneg_right small (peak_nonneg signal)
    _ = peak signal / 10 ^ 9 := by ring

/-- Three samples, fewer than the bank has taps, with the peak at the right edge. -/
theorem abs_reconstruct_sub_le_short :
    db3 ∈ [haar, db2, db3] ∧ 0 < (#[1, -2, 5] : Array ℚ).size ∧ peak (#[1, -2, 5] : Array ℚ) = 5 ∧
      ∃ (bands : Bands ℚ) (reconstruction : Array ℚ),
        decompose (db3.map fun tap => (exactValue tap : ℚ)) .smooth #[1, -2, 5] = .ok bands ∧
        reconstruct (db3.map fun tap => (exactValue tap : ℚ)) bands = .ok reconstruction ∧
        ∃ whole : 3 ≤ reconstruction.size,
          |reconstruction[0] - 1| ≤ 5 / 10 ^ 9 ∧ |reconstruction[2] - 5| ≤ 5 / 10 ^ 9 := by
  have shipped : db3 ∈ [haar, db2, db3] := by simp
  have loudest : peak (#[1, -2, 5] : Array ℚ) = 5 := by decide +kernel
  obtain ⟨bands, reconstruction, split, joined, whole, near⟩ :=
    abs_reconstruct_sub_le db3 shipped .smooth (#[1, -2, 5] : Array ℚ) (by decide)
  rw [loudest] at near
  exact ⟨shipped, by decide, loudest, bands, reconstruction, split, joined, whole, near 0 (by decide),
    near 2 (by decide)⟩

end BufferScope.Wavelet
