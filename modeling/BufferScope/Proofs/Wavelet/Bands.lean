/-
Decomposition after reconstruction, over any commutative ring. Bands of one length, whether or not a signal has them,
are put together and taken apart again. Where no window reaches past the reconstruction, each coefficient that comes
back is its own band weighted with the autocorrelation of the scaling filter, and nothing of the other band; so an
orthonormal filter gives the bands back there, and one with two taps everywhere.
-/
import BufferScope.Proofs.Wavelet.Extension
import BufferScope.Proofs.Wavelet.Tap
import BufferScope.Proofs.Wavelet.Transform

namespace BufferScope.Wavelet

open FilterBank (mirror)

variable {ρ : Type} [CommRing ρ] {taps : ℕ}

/-- Bands that are put together have as many coefficients when they are taken apart again. -/
theorem coefficientCount_reconstructionLength (even : Even taps) {coefficients : ℕ}
    (enough : taps / 2 ≤ coefficients) :
    coefficientCount (reconstructionLength coefficients taps) taps = coefficients := by
  unfold coefficientCount reconstructionLength
  obtain ⟨half, rfl⟩ := even
  omega

section Reconstruction

variable (name : String) (even : Even taps) (scaling : Vector ρ taps) (mode : Extension) (bands : Bands ρ)
  (same : bands.approx.size = bands.detail.size)

/-- The reconstruction of two bands. -/
def synthesis : Array ρ := Array.ofFn (reconstructedAt (.ofScaling name scaling) bands same)

@[simp] theorem size_synthesis :
    (synthesis name scaling bands same).size = reconstructionLength bands.approx.size taps := Array.size_ofFn

include even

theorem getElem_synthesis {n : ℕ} (inside : n < (synthesis name scaling bands same).size) :
    (synthesis name scaling bands same)[n] = ∑ t : Fin taps, if t.val % 2 = n % 2 then
      scaling[t] * entryAt bands.approx ((n + taps - 2 - t) / 2 : ℕ)
        + (mirror scaling)[t] * entryAt bands.detail ((n + taps - 2 - t) / 2 : ℕ) else 0 := by
  simp only [entryAt_natCast]
  exact (Array.getElem_ofFn ..).trans
    (reconstructedAt_ofScaling name even scaling bands same ⟨n, by simpa using inside⟩)

/-- What a tap of window `k` meets in a reconstruction: the taps at even distances from it, each with its
coefficient. -/
theorem sampleAt_synthesis (nonempty : 0 < (synthesis name scaling bands same).size) {k : ℕ}
    (low : taps / 2 ≤ k + 1) (high : k + taps / 2 ≤ bands.approx.size) (s : Fin taps) :
    mode.sampleAt (synthesis name scaling bands same) nonempty (2 * k + 2 - taps + s) =
      ∑ t : Fin taps, if Even ((s : ℤ) - t) then
        scaling[t] * entryAt bands.approx (k + (s - t) / 2) +
          (mirror scaling)[t] * entryAt bands.detail (k + (s - t) / 2)
        else 0 := by
  have tap := s.isLt
  have inside : 2 * k + 2 + s - taps < (synthesis name scaling bands same).size := by
    rw [size_synthesis]
    unfold reconstructionLength
    obtain ⟨half, rfl⟩ := even
    omega
  have place : (2 * k + 2 - taps + s : ℤ) = (2 * k + 2 + s - taps : ℕ) := by
    obtain ⟨half, rfl⟩ := even
    omega
  rw [place, mode.sampleAt_inside _ _ _ inside]
  rw [getElem_synthesis name even]
  refine Finset.sum_congr rfl fun t _ => ?_
  have tap' := t.isLt
  refine ite_congr (propext ?_) (fun whole => ?_) fun _ => rfl
  · rw [even_distance_iff]
    obtain ⟨half, rfl⟩ := even
    omega
  · have coefficient : (k + ((s : ℤ) - t) / 2) = ((2 * k + 2 + s - taps + taps - 2 - t) / 2 : ℕ) := by
      rw [even_distance_iff] at whole
      obtain ⟨half, rfl⟩ := even
      omega
    rw [coefficient]

/-- A coefficient of a reconstruction, under either filter: the products of its taps with those of the two filters that
the reconstruction was put together with. -/
theorem coefficient_synthesis (filter : Vector ρ taps)
    (nonempty : 0 < (synthesis name scaling bands same).size) {k : ℕ} (low : taps / 2 ≤ k + 1)
    (high : k + taps / 2 ≤ bands.approx.size) :
    coefficient filter.reverse mode (synthesis name scaling bands same) nonempty (2 * k + 1 : ℕ) =
      evenPairs scaling filter (fun d => entryAt bands.approx (k + d / 2)) +
        evenPairs (mirror scaling) filter fun d => entryAt bands.detail (k + d / 2) := by
  rw [coefficient_reverse]
  unfold evenPairs
  rw [Finset.sum_comm, Finset.sum_comm (f := fun t s : Fin taps =>
    if Even ((s : ℤ) - t) then (mirror scaling)[t] * filter[s] * entryAt bands.detail (k + (s - t) / 2) else 0),
    ← Finset.sum_add_distrib]
  refine Finset.sum_congr rfl fun s _ => ?_
  rw [sampleAt_synthesis name even scaling mode bands same nonempty low high s, Finset.mul_sum,
    ← Finset.sum_add_distrib]
  refine Finset.sum_congr rfl fun t _ => ?_
  have tap : filter.get s = filter[s] := rfl
  rw [tap]
  split <;> ring

/-- A reconstruction has bands as long as those that were put in, and away from both ends they are these, weighted with
the autocorrelation of the scaling filter. -/
theorem exists_bands_synthesis (positive : 0 < taps) (enough : taps / 2 ≤ bands.approx.size) :
    ∃ bands', decompose (.ofScaling name scaling) mode (synthesis name scaling bands same) = .ok bands' ∧
      bands'.approx.size = bands.approx.size ∧ bands'.detail.size = bands.detail.size ∧
      ∀ k, taps / 2 - 1 ≤ k → k ≤ bands.approx.size - taps / 2 →
        bands'.approx[k]? =
          some (∑ d ∈ evenLags taps, autocorrelation scaling d * entryAt bands.approx (k + d / 2)) ∧
        bands'.detail[k]? =
          some (∑ d ∈ evenLags taps, autocorrelation scaling d * entryAt bands.detail (k + d / 2)) := by
  have nonempty : 0 < (synthesis name scaling bands same).size := by
    rw [size_synthesis]
    unfold reconstructionLength
    omega
  have count : coefficientCount (synthesis name scaling bands same).size taps = bands.approx.size := by
    rw [size_synthesis, coefficientCount_reconstructionLength even enough]
  refine ⟨_, decompose_ofScaling name scaling mode _ nonempty, (size_band ..).trans count,
    ((size_band ..).trans count).trans same, fun k low high => ?_⟩
  have inside : k < coefficientCount (synthesis name scaling bands same).size taps := by
    rw [count]
    obtain ⟨half, rfl⟩ := even
    omega
  have coefficients := fun filter => coefficient_synthesis name even scaling mode bands same filter nonempty
    (k := k) (by omega) (by omega)
  constructor
  · rw [getElem?_band _ _ _ _ inside, coefficients, evenPairs_self, evenPairs_mirror_filter even, add_zero]
  · rw [getElem?_band _ _ _ _ inside, coefficients, evenPairs_filter_mirror even, evenPairs_mirror even,
      evenPairs_self, zero_add]

end Reconstruction

/-- Putting two bands of one length together and taking the result apart succeeds, if they have at least half as many
coefficients as the filters have taps, and gives bands of that length again. Away from both ends, each coefficient is
its own band around it weighted with the autocorrelation of the scaling filter at even lags, whatever the extension and
with nothing of the other band. If those weights are one at lag zero and zero elsewhere, these coefficients come back as
they were, and with two taps both bands do. -/
theorem decompose_reconstruct (name : String) (scaling : Vector ρ taps) (even : Even taps) (two : 2 ≤ taps)
    (mode : Extension) (bands : Bands ρ) (same : bands.approx.size = bands.detail.size)
    (enough : taps / 2 ≤ bands.approx.size) :
    ∃ signal bands', reconstruct (.ofScaling name scaling) bands = .ok signal ∧
      decompose (.ofScaling name scaling) mode signal = .ok bands' ∧
      bands'.approx.size = bands.approx.size ∧ bands'.detail.size = bands.detail.size ∧
      (∀ k, taps / 2 - 1 ≤ k → k ≤ bands.approx.size - taps / 2 →
        bands'.approx[k]? =
            some (∑ l ∈ halfLags taps, autocorrelation scaling (2 * l) * entryAt bands.approx (k + l)) ∧
          bands'.detail[k]? =
            some (∑ l ∈ halfLags taps, autocorrelation scaling (2 * l) * entryAt bands.detail (k + l))) ∧
      (Orthonormal scaling →
        (∀ k, taps / 2 - 1 ≤ k → k ≤ bands.approx.size - taps / 2 →
          bands'.approx[k]? = bands.approx[k]? ∧ bands'.detail[k]? = bands.detail[k]?) ∧
        (taps = 2 → bands' = bands)) := by
  obtain ⟨bands', split, approx_size, detail_size, coefficients⟩ :=
    exists_bands_synthesis name even scaling mode bands same (by omega) enough
  have kept : Orthonormal scaling → ∀ k, taps / 2 - 1 ≤ k → k ≤ bands.approx.size - taps / 2 →
      bands'.approx[k]? = bands.approx[k]? ∧ bands'.detail[k]? = bands.detail[k]? := by
    intro orthonormal k low high
    have inside : k < bands.approx.size := by omega
    obtain ⟨approx, detail⟩ := coefficients k low high
    rw [approx, detail, orthonormal.sum_evenLags (by omega) fun d => entryAt bands.approx (k + d / 2),
      orthonormal.sum_evenLags (by omega) fun d => entryAt bands.detail (k + d / 2), Int.zero_ediv, add_zero,
      entryAt_inside _ _ inside, entryAt_inside _ _ (same ▸ inside), Array.getElem?_eq_getElem inside,
      Array.getElem?_eq_getElem (same ▸ inside)]
    exact ⟨rfl, rfl⟩
  refine ⟨_, bands', reconstruct_of_overlap _ bands same enough, split, approx_size, detail_size,
    fun k low high => ?_,
    fun orthonormal => ⟨kept orthonormal, ?_⟩⟩
  · obtain ⟨approx, detail⟩ := coefficients k low high
    simp only [sum_evenLags even, Int.mul_ediv_cancel_left _ two_ne_zero] at approx detail
    exact ⟨approx, detail⟩
  · rintro rfl
    have everywhere : ∀ k : ℕ, bands'.approx[k]? = bands.approx[k]? ∧ bands'.detail[k]? = bands.detail[k]? := by
      intro k
      by_cases inside : k < bands.approx.size
      · exact kept orthonormal k (by omega) (by omega)
      · rw [Array.getElem?_eq_none (by omega), Array.getElem?_eq_none (by omega), Array.getElem?_eq_none (by omega),
          Array.getElem?_eq_none (by omega)]
        exact ⟨rfl, rfl⟩
    exact congrArg₂ Bands.mk (Array.ext_getElem? fun k => (everywhere k).1)
      (Array.ext_getElem? fun k => (everywhere k).2)

/-- Four coefficients per band, which no signal has under this filter and extension. -/
theorem decompose_reconstruct_halves :
    Even 4 ∧ 2 ≤ 4 ∧ (#[5, -2, 7, 1] : Array ℚ).size = (#[0, 3, -1, 4] : Array ℚ).size ∧
      4 / 2 ≤ (#[5, -2, 7, 1] : Array ℚ).size ∧
      ∃ (signal : Array ℚ) (bands : Bands ℚ),
        reconstruct (.ofScaling "halves" #v[1 / 2, 1 / 2, 1 / 2, -1 / 2]) ⟨#[5, -2, 7, 1], #[0, 3, -1, 4]⟩ =
          .ok signal ∧
        decompose (.ofScaling "halves" #v[1 / 2, 1 / 2, 1 / 2, -1 / 2]) .zero signal = .ok bands ∧
        bands.approx.size = 4 ∧ bands.approx[1]? = some (-2 : ℚ) ∧ bands.approx[2]? = some 7 ∧
        bands.detail[1]? = some 3 ∧ bands.detail[2]? = some (-1 : ℚ) := by
  refine ⟨by decide, by decide, by decide, by decide, ?_⟩
  obtain ⟨signal, bands, built, split, size, -, -, undone⟩ :=
    decompose_reconstruct "halves" (#v[1 / 2, 1 / 2, 1 / 2, -1 / 2] : Vector ℚ 4) (by decide) (by decide) .zero
      ⟨#[5, -2, 7, 1], #[0, 3, -1, 4]⟩ rfl (by decide)
  obtain ⟨kept, -⟩ := undone orthonormal_halves
  obtain ⟨approx, detail⟩ := kept 1 (by decide) (by decide)
  obtain ⟨approx', detail'⟩ := kept 2 (by decide) (by decide)
  exact ⟨signal, bands, built, split, size, approx, approx', detail, detail'⟩

end BufferScope.Wavelet
