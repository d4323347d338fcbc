/-
Inner products of signals and of their bands under the zero extension, over any commutative ring. The bands keep every
coefficient whose window meets the signal, so their inner products are those of the signals, weighted with the
autocorrelation of the scaling filter at even lags; an orthonormal filter keeps inner products and energy.
-/
import BufferScope.Proofs.Wavelet.Tap
import BufferScope.Proofs.Wavelet.Transform

namespace BufferScope.Wavelet

open FilterBank (mirror)

variable {ρ : Type} [CommRing ρ] {taps : ℕ}

/-- The sum of the products of the entries of two arrays, the second moved by a lag. At lag zero it is their inner
product, and the energy of an array is its inner product with itself. -/
def correlation (first second : Array ρ) (lag : ℤ) : ρ :=
  ∑ n ∈ Finset.range first.size, entryAt first n * entryAt second (n + lag)

/-- The zero extension counts samples outside as zero. -/
theorem sampleAt_zero (signal : Array ρ) (nonempty : 0 < signal.size) (i : ℤ) :
    Extension.zero.sampleAt signal nonempty i = entryAt signal i := by
  unfold Extension.sampleAt
  dsimp only
  split
  · next inside =>
    obtain ⟨n, rfl⟩ := Int.eq_ofNat_of_zero_le inside.1
    rw [entryAt_inside _ _ (by omega)]
    rfl
  · next outside => rw [entryAt_outside _ outside]

theorem coefficient_zero (filter : Vector ρ taps) (signal : Array ρ) (nonempty : 0 < signal.size) (center : ℤ) :
    coefficient filter.reverse .zero signal nonempty center =
      ∑ s : Fin taps, filter.get s * entryAt signal (center + 1 - taps + s) := by
  rw [coefficient_reverse_center]
  exact Finset.sum_congr rfl fun s _ => by rw [sampleAt_zero]

/-- A band has every coefficient that is not zero: all windows but those of its own lie outside the signal. -/
theorem entryAt_band_zero (filter : Vector ρ taps) (signal : Array ρ) (nonempty : 0 < signal.size) (k : ℤ) :
    entryAt (band filter.reverse .zero signal nonempty) k =
      ∑ s : Fin taps, filter.get s * entryAt signal (2 * k + 2 - taps + s) := by
  by_cases inside : 0 ≤ k ∧ k < coefficientCount signal.size taps
  · obtain ⟨n, rfl⟩ := Int.eq_ofNat_of_zero_le inside.1
    rw [entryAt_natCast, getElem?_band _ _ _ _ (by omega), Option.getD_some, coefficient_zero]
    refine Finset.sum_congr rfl fun s _ => ?_
    have place : ((2 * n + 1 : ℕ) : ℤ) + 1 - taps + s = 2 * n + 2 - taps + s := by omega
    rw [place]
  · rw [entryAt_outside _ (by rwa [size_band])]
    refine (Finset.sum_eq_zero fun s _ => ?_).symm
    have := s.isLt
    unfold coefficientCount at inside
    rw [entryAt_outside _ (by omega), mul_zero]

/-- What a tap meets in the windows of all coefficients is the entries of one parity. -/
theorem sum_windows (even : Even taps) {t : ℕ} (tap : t < taps) (samples : ℕ) (term : ℤ → ρ)
    (vanishes : ∀ n : ℤ, ¬(0 ≤ n ∧ n < samples) → term n = 0) :
    ∑ k ∈ Finset.range (coefficientCount samples taps), term (2 * k + 2 - taps + t) =
      ∑ n ∈ Finset.range samples, if t % 2 = n % 2 then term n else 0 := by
  unfold coefficientCount
  obtain ⟨half, rfl⟩ := even
  rw [← Finset.sum_filter, ← Finset.sum_filter_of_ne (p := fun k : ℕ => half + half ≤ 2 * k + 2 + t ∧
    2 * k + 2 + t < samples + (half + half))]
  · refine Finset.sum_nbij' (fun k => 2 * k + 2 + t - (half + half))
      (fun n => (n + (half + half) - 2 - t) / 2) ?_ ?_ ?_ ?_ ?_
    · intro k member
      rw [Finset.mem_filter, Finset.mem_range] at member
      rw [Finset.mem_filter, Finset.mem_range]
      omega
    · intro n member
      rw [Finset.mem_filter, Finset.mem_range] at member
      rw [Finset.mem_filter, Finset.mem_range]
      omega
    · intro k member
      rw [Finset.mem_filter] at member
      omega
    · intro n member
      rw [Finset.mem_filter] at member
      omega
    · intro k member
      rw [Finset.mem_filter] at member
      congr 1
      omega
  · intro k _ nonzero
    by_contra outside
    exact nonzero (vanishes _ (by omega))

/-- The bands of two signals, summed over all coefficients: at every place the filters pair up, and what is left are the
products of samples at even lags. -/
theorem sum_coefficients (even : Even taps) (scaling : Vector ρ taps) (x y : Array ρ) :
    ∑ k ∈ Finset.range (coefficientCount x.size taps),
        ((∑ t : Fin taps, scaling.get t * entryAt x (2 * k + 2 - taps + t)) *
            (∑ s : Fin taps, scaling.get s * entryAt y (2 * k + 2 - taps + s)) +
          (∑ t : Fin taps, (mirror scaling).get t * entryAt x (2 * k + 2 - taps + t)) *
            ∑ s : Fin taps, (mirror scaling).get s * entryAt y (2 * k + 2 - taps + s)) =
      ∑ j ∈ evenLags taps, autocorrelation scaling j * correlation x y j := by
  let pair (t s : Fin taps) : ρ := scaling.get t * scaling.get s + (mirror scaling).get t * (mirror scaling).get s
  calc _ = ∑ k ∈ Finset.range (coefficientCount x.size taps), ∑ t : Fin taps, ∑ s : Fin taps,
          pair t s * (entryAt x (2 * k + 2 - taps + t) * entryAt y (2 * k + 2 - taps + t + (s - t))) := by
        refine Finset.sum_congr rfl fun k _ => ?_
        rw [Finset.sum_mul_sum, Finset.sum_mul_sum, ← Finset.sum_add_distrib]
        refine Finset.sum_congr rfl fun t _ => ?_
        rw [← Finset.sum_add_distrib]
        refine Finset.sum_congr rfl fun s _ => ?_
        rw [add_add_sub_cancel]
        ring
    _ = ∑ t : Fin taps, ∑ s : Fin taps, ∑ n ∈ Finset.range x.size,
          if t.val % 2 = n % 2 then pair t s * (entryAt x n * entryAt y (n + (s - t))) else 0 := by
        rw [Finset.sum_comm]
        refine Finset.sum_congr rfl fun t _ => ?_
        rw [Finset.sum_comm]
        refine Finset.sum_congr rfl fun s _ => ?_
        exact sum_windows even t.isLt x.size (fun n => pair t s * (entryAt x n * entryAt y (n + (s - t))))
          fun n outside => by rw [entryAt_outside x outside, zero_mul, mul_zero]
    _ = ∑ n ∈ Finset.range x.size, ∑ t : Fin taps, ∑ s : Fin taps,
          if t.val % 2 = n % 2 then pair t s * (entryAt x n * entryAt y (n + (s - t))) else 0 :=
        (Finset.sum_congr rfl fun t _ => Finset.sum_comm).trans Finset.sum_comm
    _ = ∑ n ∈ Finset.range x.size, ∑ j ∈ evenLags taps,
      autocorrelation scaling j * (entryAt x n * entryAt y (n + j)) :=
        Finset.sum_congr rfl fun n _ => sum_mirror_pairs even scaling (n % 2) (Nat.mod_lt _ two_pos) fun j =>
          entryAt x n * entryAt y (n + j)
    _ = ∑ j ∈ evenLags taps, autocorrelation scaling j * correlation x y j := by
        unfold correlation
        rw [Finset.sum_comm]
        exact Finset.sum_congr rfl fun j _ => (Finset.mul_sum ..).symm

/-- The sum over all coefficients of the products in both bands. -/
def Bands.inner (first second : Bands ρ) : ρ :=
  ∑ k ∈ Finset.range first.approx.size,
    (entryAt first.approx k * entryAt second.approx k + entryAt first.detail k * entryAt second.detail k)

theorem inner_band_zero (even : Even taps) (scaling : Vector ρ taps) {x y : Array ρ} (nonempty : 0 < x.size)
    (nonempty' : 0 < y.size) :
    Bands.inner
        ⟨band scaling.reverse .zero x nonempty, band (mirror scaling).reverse .zero x nonempty⟩
        ⟨band scaling.reverse .zero y nonempty', band (mirror scaling).reverse .zero y nonempty'⟩ =
      ∑ j ∈ evenLags taps, autocorrelation scaling j * correlation x y j := by
  unfold Bands.inner
  simp only [entryAt_band_zero, size_band]
  exact sum_coefficients even scaling x y

/-- Inner products under the zero extension. Two signals of one length have bands of `⌊(n + f - 1) / 2⌋`
coefficients, and the inner product of their bands is that of the signals at even lags, weighted with the
autocorrelation of the scaling filter. If that is one at lag zero and zero elsewhere, inner products are kept,
and so is the energy of each signal. Nothing is cut off at an edge: a coefficient at any other place is zero. -/
theorem inner_bands (name : String) (scaling : Vector ρ taps) (even : Even taps) (two : 2 ≤ taps) (x y : Array ρ)
    (same : x.size = y.size) (nonempty : 0 < x.size) :
    ∃ bands bands', decompose (.ofScaling name scaling) .zero x = .ok bands ∧
      decompose (.ofScaling name scaling) .zero y = .ok bands' ∧
      (bands.approx.size = (x.size + taps - 1) / 2 ∧ bands.detail.size = (x.size + taps - 1) / 2 ∧
        bands'.approx.size = (x.size + taps - 1) / 2 ∧ bands'.detail.size = (x.size + taps - 1) / 2) ∧
      bands.inner bands' = ∑ j ∈ evenLags taps, autocorrelation scaling j * correlation x y j ∧
      (Orthonormal scaling → bands.inner bands' = ∑ n ∈ Finset.range x.size, entryAt x n * entryAt y n ∧
        bands.inner bands = ∑ n ∈ Finset.range x.size, entryAt x n ^ 2) ∧
      ∀ k : ℤ,
        coefficient (FilterBank.ofScaling name scaling).decLow .zero x nonempty (2 * k + 1) = entryAt bands.approx k ∧
        coefficient (FilterBank.ofScaling name scaling).decHigh .zero x nonempty (2 * k + 1) =
          entryAt bands.detail k := by
  have nonempty' : 0 < y.size := same ▸ nonempty
  have sizes : coefficientCount y.size taps = (x.size + taps - 1) / 2 := by rw [← same]; rfl
  refine ⟨_, _, decompose_ofScaling name scaling .zero x nonempty, decompose_ofScaling name scaling .zero y nonempty',
    ⟨size_band .., size_band .., (size_band ..).trans sizes, (size_band ..).trans sizes⟩,
    inner_band_zero even scaling nonempty nonempty', fun orthonormal => ⟨?_, ?_⟩, fun k => ?_⟩
  · rw [inner_band_zero even, orthonormal.sum_evenLags (by omega)]
    unfold correlation
    simp only [add_zero]
  · rw [inner_band_zero even, orthonormal.sum_evenLags (by omega)]
    unfold correlation
    simp only [add_zero, sq]
  · have place : (2 * k + 1 + 1 : ℤ) = 2 * k + 2 := by ring
    constructor
    · refine (coefficient_zero scaling x nonempty (2 * k + 1)).trans ?_
      rw [entryAt_band_zero, place]
    · refine (coefficient_zero (mirror scaling) x nonempty (2 * k + 1)).trans ?_
      rw [entryAt_band_zero, place]

/-- Three samples under four taps, where half of the windows reach past an edge. -/
theorem inner_bands_short :
    Even 4 ∧ 2 ≤ 4 ∧ (#[1, 2, 3] : Array ℚ).size = (#[4, 0, -1] : Array ℚ).size ∧
      0 < (#[1, 2, 3] : Array ℚ).size ∧
      ∃ bands bands' : Bands ℚ,
        decompose (.ofScaling "halves" #v[1 / 2, 1 / 2, 1 / 2, -1 / 2]) .zero #[1, 2, 3] = .ok bands ∧
        decompose (.ofScaling "halves" #v[1 / 2, 1 / 2, 1 / 2, -1 / 2]) .zero #[4, 0, -1] = .ok bands' ∧
        bands.approx.size = 3 ∧ bands.inner bands' = 1 ∧ bands.inner bands = 14 := by
  refine ⟨by decide, by decide, by decide, by decide, ?_⟩
  obtain ⟨bands, bands', split, split', ⟨size, -⟩, -, kept, -⟩ :=
    inner_bands "halves" (#v[1 / 2, 1 / 2, 1 / 2, -1 / 2] : Vector ℚ 4) (by decide) (by decide)
      (#[1, 2, 3] : Array ℚ) #[4, 0, -1] rfl (by decide)
  obtain ⟨product, energy⟩ := kept orthonormal_halves
  exact ⟨bands, bands', split, split', size, product.trans (by decide +kernel), energy.trans (by decide +kernel)⟩

end BufferScope.Wavelet
