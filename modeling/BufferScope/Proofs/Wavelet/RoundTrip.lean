/-
Reconstruction after decomposition, over any commutative ring. For every bank of a scaling filter of
even length, every extension and every non-empty signal, each reconstructed sample is the extended
signal around it weighted with the filter's autocorrelation at even lags; so an orthonormal filter
gives the signal back, at both edges too.
-/
import BufferScope.Proofs.Wavelet.Extension
import BufferScope.Proofs.Wavelet.Tap
import BufferScope.Proofs.Wavelet.Transform

namespace BufferScope.Wavelet

variable {ρ : Type} [CommRing ρ] {taps : ℕ}

/-- The extended signal around index `n`, weighted with the autocorrelation at even lags. -/
noncomputable def weighted (scaling : Vector ρ taps) (mode : Extension) (signal : Array ρ)
    (nonempty : 0 < signal.size) (n : ℤ) : ρ :=
  ∑ d ∈ evenLags taps, autocorrelation scaling d * mode.sampleAt signal nonempty (n + d)

/-- What tap `t` meets when sample `n` is put together: the window that starts `t` before `n`. -/
theorem getElem?_band_reverse (even : Even taps) (filter : Vector ρ taps) (mode : Extension) (signal : Array ρ)
    (nonempty : 0 < signal.size) {n t : ℕ} (tap : t < taps) (parity : t % 2 = n % 2)
    (inside : n < reconstructionLength (coefficientCount signal.size taps) taps) :
    (band filter.reverse mode signal nonempty)[(n + taps - 2 - t) / 2]?.getD 0 =
      ∑ s : Fin taps, filter[s] * mode.sampleAt signal nonempty (n + (s - t)) := by
  have counted : (n + taps - 2 - t) / 2 < coefficientCount signal.size taps := by
    unfold reconstructionLength at inside
    obtain ⟨half, rfl⟩ := even
    omega
  rw [getElem?_band _ _ _ _ counted, Option.getD_some, coefficient_reverse]
  refine Finset.sum_congr rfl fun s _ => ?_
  have place : (2 * ((n + taps - 2 - t) / 2 : ℕ) + 2 - taps + s : ℤ) = n + (s - t) := by
    obtain ⟨half, rfl⟩ := even
    omega
  rw [place]
  rfl

/-- A sample put together from the bands of a signal. -/
theorem reconstructedAt_band (name : String) (even : Even taps) (scaling : Vector ρ taps) (mode : Extension)
    (signal : Array ρ) (nonempty : 0 < signal.size)
    (same : (band scaling.reverse mode signal nonempty).size =
      (band (FilterBank.mirror scaling).reverse mode signal nonempty).size)
    (n : Fin (reconstructionLength (band scaling.reverse mode signal nonempty).size taps)) :
    reconstructedAt (FilterBank.ofScaling name scaling)
        ⟨band scaling.reverse mode signal nonempty, band (FilterBank.mirror scaling).reverse mode signal nonempty⟩
        same n =
      weighted scaling mode signal nonempty n := by
  have inside : n.val < reconstructionLength (coefficientCount signal.size taps) taps :=
    lt_of_lt_of_eq n.isLt (by rw [size_band])
  rw [reconstructedAt_ofScaling name even]
  unfold weighted
  rw [← sum_mirror_pairs even scaling (n.val % 2) (Nat.mod_lt _ two_pos) fun d =>
    mode.sampleAt signal nonempty (n + d)]
  -- Both bands hold sums over the same window, so each tap of one pairs up with a tap of the other.
  refine Finset.sum_congr rfl fun t _ => ?_
  split
  · rename_i parity
    rw [getElem?_band_reverse even _ mode signal nonempty t.isLt parity inside,
      getElem?_band_reverse even _ mode signal nonempty t.isLt parity inside,
      Finset.mul_sum, Finset.mul_sum, ← Finset.sum_add_distrib]
    exact Finset.sum_congr rfl fun s _ => by ring
  · exact Finset.sum_const_zero.symm

/-- The reconstruction of the bands of a signal, sample by sample. -/
theorem exists_roundTrip (name : String) (even : Even taps) (scaling : Vector ρ taps) (mode : Extension)
    (signal : Array ρ) (nonempty : 0 < signal.size) :
    ∃ bands reconstruction, decompose (.ofScaling name scaling) mode signal = .ok bands ∧
      reconstruct (.ofScaling name scaling) bands = .ok reconstruction ∧
      reconstruction.size = (if Even signal.size then signal.size else signal.size + 1) ∧
      ∀ n (inside : n < reconstruction.size), reconstruction[n] = weighted scaling mode signal nonempty n := by
  have same : (band scaling.reverse mode signal nonempty).size =
      (band (FilterBank.mirror scaling).reverse mode signal nonempty).size := by
    rw [size_band, size_band]
  have overlap : taps / 2 ≤ (band scaling.reverse mode signal nonempty).size := by
    rw [size_band]
    exact half_le_coefficientCount nonempty
  refine ⟨_, _, decompose_of_nonempty _ mode signal nonempty, reconstruct_of_overlap _ _ same overlap, ?_, ?_⟩
  · rw [Array.size_ofFn, ← reconstructionLength_coefficientCount even nonempty]
    exact congrArg (reconstructionLength · taps) (size_band ..)
  · intro n inside
    rw [Array.getElem_ofFn]
    exact reconstructedAt_band name even scaling mode signal nonempty same _

/-- Inside the signal, an orthonormal filter's weights leave the sample itself. -/
theorem weighted_of_orthonormal (positive : 0 < taps) (scaling : Vector ρ taps) (unit : autocorrelation scaling 0 = 1)
    (orthogonal : ∀ d : ℤ, Even d → d ≠ 0 → autocorrelation scaling d = 0) (mode : Extension)
    (signal : Array ρ) (nonempty : 0 < signal.size) (n : ℕ) (inside : n < signal.size) :
    weighted scaling mode signal nonempty n = signal[n] := by
  unfold weighted
  rw [(Orthonormal.mk unit orthogonal).sum_evenLags positive fun d => mode.sampleAt signal nonempty (n + d), add_zero,
    mode.sampleAt_inside]

/-- Decomposing a non-empty signal and putting its bands together succeeds. A signal of even length
comes back with its length and one of odd length with one sample more; every sample is the extended
signal around it weighted with the autocorrelation of the scaling filter at even lags. If those
weights are one at lag zero and zero elsewhere, the signal itself comes back, whatever the extension. -/
theorem reconstruct_decompose (name : String) (scaling : Vector ρ taps) (even : Even taps) (two : 2 ≤ taps)
    (mode : Extension) (signal : Array ρ) (nonempty : 0 < signal.size) :
    ∃ bands reconstruction, decompose (.ofScaling name scaling) mode signal = .ok bands ∧
      reconstruct (.ofScaling name scaling) bands = .ok reconstruction ∧
      reconstruction.size = (if Even signal.size then signal.size else signal.size + 1) ∧
      (∀ n (inside : n < reconstruction.size), reconstruction[n] =
        ∑ d ∈ evenLags taps, autocorrelation scaling d * mode.sampleAt signal nonempty (n + d)) ∧
      (autocorrelation scaling 0 = 1 → (∀ d : ℤ, Even d → d ≠ 0 → autocorrelation scaling d = 0) →
        ∀ n (inside : n < signal.size), reconstruction[n]? = some signal[n]) := by
  obtain ⟨bands, reconstruction, split, joined, size, samples⟩ :=
    exists_roundTrip name even scaling mode signal nonempty
  refine ⟨bands, reconstruction, split, joined, size, samples, fun unit orthogonal n inside => ?_⟩
  have reached : n < reconstruction.size := by
    rw [size]
    split <;> omega
  rw [Array.getElem?_eq_getElem reached, samples n reached,
    weighted_of_orthonormal (by omega) scaling unit orthogonal mode signal nonempty n inside]

/-- Three samples under four taps, on a filter whose taps are all one half in size. -/
theorem reconstruct_decompose_short :
    Even 4 ∧ 2 ≤ 4 ∧ 0 < (#[5, -2, 7] : Array ℚ).size ∧
      ∃ (bands : Bands ℚ) (reconstruction : Array ℚ),
        decompose (.ofScaling "halves" #v[1 / 2, 1 / 2, 1 / 2, -1 / 2]) .smooth #[5, -2, 7] = .ok bands ∧
        reconstruct (.ofScaling "halves" #v[1 / 2, 1 / 2, 1 / 2, -1 / 2]) bands = .ok reconstruction ∧
        reconstruction.size = 4 ∧ reconstruction[0]? = some 5 ∧ reconstruction[1]? = some (-2 : ℚ) ∧
        reconstruction[2]? = some 7 := by
  refine ⟨by decide, by decide, by decide, ?_⟩
  obtain ⟨bands, reconstruction, split, joined, size, -, same⟩ :=
    reconstruct_decompose "halves" #v[1 / 2, 1 / 2, 1 / 2, -1 / 2] (by decide) (by decide) .smooth
      (#[5, -2, 7] : Array ℚ) (by decide)
  have samples := same orthonormal_halves.unit orthonormal_halves.orthogonal
  exact ⟨bands, reconstruction, split, joined, size, samples 0 (by decide), samples 1 (by decide),
    samples 2 (by decide)⟩

end BufferScope.Wavelet
