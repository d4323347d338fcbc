/-
The two transforms as sums over the taps of the bank, over any commutative ring: a coefficient is a
sum over a window of the extended signal, and a reconstructed sample is a sum over the taps of its
own parity. With these the transforms' loops are not opened again.
-/
import Mathlib.Tactic
import BufferScope.Proofs.Number
import BufferScope.Wavelet.Transform

namespace BufferScope.Wavelet

/-! ## Lengths and success -/

section Lengths

variable {ρ : Type} [Add ρ] [Mul ρ] [Zero ρ]

@[simp] theorem size_band [Sub ρ] [NatCast ρ] {taps : ℕ} (filter : Vector ρ taps) (mode : Extension)
    (signal : Array ρ) (nonempty : 0 < signal.size) :
    (band filter mode signal nonempty).size = coefficientCount signal.size taps := by
  simp [band]

theorem getElem_band [Sub ρ] [NatCast ρ] {taps : ℕ} (filter : Vector ρ taps) (mode : Extension) (signal : Array ρ)
    (nonempty : 0 < signal.size) (k : ℕ) (inside : k < (band filter mode signal nonempty).size) :
    (band filter mode signal nonempty)[k] = coefficient filter mode signal nonempty (2 * k + 1 : ℕ) := by
  simp [band]

theorem getElem?_band [Sub ρ] [NatCast ρ] {taps : ℕ} (filter : Vector ρ taps) (mode : Extension)
    (signal : Array ρ) (nonempty : 0 < signal.size) {k : ℕ} (inside : k < coefficientCount signal.size taps) :
    (band filter mode signal nonempty)[k]? = some (coefficient filter mode signal nonempty (2 * k + 1 : ℕ)) := by
  rw [Array.getElem?_eq_getElem (by rwa [size_band]), getElem_band]

/-- Every signal but the empty one has bands. -/
theorem decompose_of_nonempty [Sub ρ] [NatCast ρ] (bank : FilterBank ρ) (mode : Extension) (signal : Array ρ)
    (nonempty : 0 < signal.size) :
    decompose bank mode signal =
      .ok ⟨band bank.decLow mode signal nonempty, band bank.decHigh mode signal nonempty⟩ := by
  unfold decompose
  rw [dif_pos nonempty]

theorem decompose_ofScaling [Sub ρ] [Neg ρ] [NatCast ρ] (name : String) {taps : ℕ} (scaling : Vector ρ taps)
    (mode : Extension) (signal : Array ρ) (nonempty : 0 < signal.size) :
    decompose (.ofScaling name scaling) mode signal =
      .ok ⟨band scaling.reverse mode signal nonempty,
        band (FilterBank.mirror scaling).reverse mode signal nonempty⟩ :=
  decompose_of_nonempty (.ofScaling name scaling) mode signal nonempty

/-- Bands of one length with at least half as many coefficients as taps can be put together. -/
theorem reconstruct_of_overlap (bank : FilterBank ρ) (bands : Bands ρ) (same : bands.approx.size = bands.detail.size)
    (overlap : bank.taps / 2 ≤ bands.approx.size) :
    reconstruct bank bands = .ok (Array.ofFn (reconstructedAt bank bands same)) := by
  unfold reconstruct
  rw [dif_pos same, if_neg (by omega)]

/-- A non-empty signal has enough coefficients for the taps to overlap. -/
theorem half_le_coefficientCount {samples taps : ℕ} (nonempty : 0 < samples) :
    taps / 2 ≤ coefficientCount samples taps := by
  unfold coefficientCount
  omega

/-- A signal of even length comes back with its length, one of odd length with one more. -/
theorem reconstructionLength_coefficientCount {samples taps : ℕ} (even : Even taps) (nonempty : 0 < samples) :
    reconstructionLength (coefficientCount samples taps) taps = if Even samples then samples else samples + 1 := by
  obtain ⟨half, rfl⟩ := even
  unfold reconstructionLength coefficientCount
  split
  · rename_i whole
    obtain ⟨m, rfl⟩ := whole
    omega
  · rename_i odd
    obtain ⟨m, rfl⟩ := Nat.not_even_iff_odd.mp odd
    omega

/-- The bands of a non-empty signal have the promised number of coefficients, enough for the taps to overlap. -/
theorem exists_bands [Sub ρ] [NatCast ρ] (bank : FilterBank ρ) (mode : Extension) {signal : Array ρ}
    (nonempty : 0 < signal.size) : ∃ bands, decompose bank mode signal = .ok bands ∧
      bands.approx.size = coefficientCount signal.size bank.taps ∧
      bands.detail.size = coefficientCount signal.size bank.taps ∧ bank.taps / 2 ≤ bands.approx.size := by
  refine ⟨_, decompose_of_nonempty bank mode signal nonempty, size_band _ _ _ _, size_band _ _ _ _, ?_⟩
  rw [size_band]
  exact half_le_coefficientCount nonempty

/-- One sample is enough for every bank to put the bands together again. -/
theorem exists_reconstruction [Sub ρ] [NatCast ρ] (bank : FilterBank ρ) (mode : Extension) (signal : Array ρ)
    (nonempty : 0 < signal.size) :
    ∃ bands reconstruction, decompose bank mode signal = .ok bands ∧
      reconstruct bank bands = .ok reconstruction := by
  obtain ⟨bands, split, approx, detail, overlap⟩ := exists_bands bank mode nonempty
  exact ⟨bands, _, split, reconstruct_of_overlap bank bands (approx.trans detail.symm) overlap⟩

/-- The lengths on the way through the bands and back. -/
theorem sizes_of_roundTrip [Sub ρ] [NatCast ρ] {bank : FilterBank ρ} {mode : Extension} {signal : Array ρ}
    (nonempty : 0 < signal.size) {bands : Bands ρ} {reconstruction : Array ρ}
    (split : decompose bank mode signal = .ok bands) (joined : reconstruct bank bands = .ok reconstruction) :
    bands.approx.size = coefficientCount signal.size bank.taps ∧
      bands.detail.size = coefficientCount signal.size bank.taps ∧
      reconstruction.size = reconstructionLength (coefficientCount signal.size bank.taps) bank.taps := by
  obtain ⟨_, split', approx, detail, overlap⟩ := exists_bands bank mode nonempty
  cases split.symm.trans split'
  cases (reconstruct_of_overlap bank bands (approx.trans detail.symm) overlap).symm.trans joined
  refine ⟨approx, detail, ?_⟩
  rw [Array.size_ofFn, approx]

end Lengths

/-! ## Entries at whole indices -/

theorem entry?_eq_some {ρ : Type} {values : Array ρ} {index : ℤ} {n : ℕ} (place : index = n)
    (inside : n < values.size) : entry? values index = some values[n] := by
  unfold entry?
  rw [place, if_pos (by omega), Int.toNat_natCast, Array.getElem?_eq_getElem inside]

theorem entry?_eq_none {ρ : Type} {values : Array ρ} {index : ℤ}
    (outside : ¬(0 ≤ index ∧ index < values.size)) :
    entry? values index = none := by
  unfold entry?
  split
  · rw [Array.getElem?_eq_none (by omega)]
  · rfl

/-- The entry at any whole index. Entries outside the array count as zero. -/
def entryAt {ρ : Type} [Zero ρ] (values : Array ρ) (i : ℤ) : ρ := if 0 ≤ i then values[i.toNat]?.getD 0 else 0

@[simp] theorem entryAt_natCast {ρ : Type} [Zero ρ] (values : Array ρ) (n : ℕ) :
    entryAt values n = values[n]?.getD 0 := by
  unfold entryAt
  rw [if_pos (by omega), Int.toNat_natCast]

theorem entryAt_inside {ρ : Type} [Zero ρ] (values : Array ρ) (n : ℕ) (inside : n < values.size) :
    entryAt values n = values[n] := by
  rw [entryAt_natCast, Array.getElem?_eq_getElem inside, Option.getD_some]

theorem entryAt_outside {ρ : Type} [Zero ρ] (values : Array ρ) {i : ℤ}
    (outside : ¬(0 ≤ i ∧ i < values.size)) :
    entryAt values i = 0 := by
  unfold entryAt
  split
  · rw [Array.getElem?_eq_none (by omega), Option.getD_none]
  · rfl

/-! ## Loops as sums -/

variable {ρ : Type} [CommRing ρ]

/-- A coefficient is a sum of products of the taps with the extended samples up to its centre. -/
theorem coefficient_eq_sum {taps : ℕ} (filter : Vector ρ taps) (mode : Extension) (signal : Array ρ)
    (nonempty : 0 < signal.size) (center : ℤ) :
    coefficient filter mode signal nonempty center =
      ∑ t : Fin taps, filter.get t * mode.sampleAt signal nonempty (center - t) := by
  unfold coefficient
  exact foldl_add_eq_sum taps _

/-- Under a filter run backwards, the window of a coefficient ends at its centre. -/
theorem coefficient_reverse_center {taps : ℕ} (filter : Vector ρ taps) (mode : Extension) (signal : Array ρ)
    (nonempty : 0 < signal.size) (center : ℤ) :
    coefficient filter.reverse mode signal nonempty center =
      ∑ s : Fin taps, filter.get s * mode.sampleAt signal nonempty (center + 1 - taps + s) := by
  rw [coefficient_eq_sum, ← Equiv.sum_comp Fin.revPerm]
  refine Finset.sum_congr rfl fun s _ => ?_
  have := s.isLt
  have tap : filter.reverse.get (Fin.revPerm s) = filter.get s := by
    show filter.reverse[(Fin.revPerm s).val] = filter[s.val]
    simp only [Fin.revPerm_apply, Vector.getElem_reverse, Fin.val_rev]
    congr 1
    omega
  have place : center - (Fin.revPerm s : Fin taps) = center + 1 - taps + s := by
    simp only [Fin.revPerm_apply, Fin.val_rev]
    omega
  rw [tap, place]

/-- The window of coefficient `k` starts at `2k + 2 - taps`. -/
theorem coefficient_reverse {taps : ℕ} (filter : Vector ρ taps) (mode : Extension) (signal : Array ρ)
    (nonempty : 0 < signal.size) (k : ℕ) :
    coefficient filter.reverse mode signal nonempty (2 * k + 1 : ℕ) =
      ∑ s : Fin taps, filter.get s * mode.sampleAt signal nonempty (2 * k + 2 - taps + s) := by
  rw [coefficient_reverse_center]
  refine Finset.sum_congr rfl fun s _ => ?_
  have place : ((2 * k + 1 : ℕ) : ℤ) + 1 - taps + s = 2 * k + 2 - taps + s := by omega
  rw [place]

/-- A sum over every second tap, from the one of the given parity on, is a sum over the taps of that
parity. -/
theorem sum_every_second {taps : ℕ} (even : Even taps) (parity : ℕ) (bit : parity < 2) (term : Fin taps → ρ)
    (inside : ∀ j : Fin (taps / 2), 2 * j.val + parity < taps) :
    ∑ j : Fin (taps / 2), term ⟨2 * j.val + parity, inside j⟩ =
      ∑ t : Fin taps, if t.val % 2 = parity then term t else 0 := by
  rw [← Finset.sum_filter]
  obtain ⟨half, rfl⟩ := even
  refine Finset.sum_bij' (fun j _ => ⟨2 * j.val + parity, inside j⟩)
    (fun t _ => ⟨t.val / 2, by have := t.isLt; omega⟩) ?_ ?_ ?_ ?_ ?_
  · intro j _
    rw [Finset.mem_filter]
    refine ⟨Finset.mem_univ _, ?_⟩
    simp only
    omega
  · intro t _
    exact Finset.mem_univ _
  · intro j _
    apply Fin.ext
    simp only
    omega
  · intro t ht
    rw [Finset.mem_filter] at ht
    apply Fin.ext
    simp only
    omega
  · intro j _
    rfl

/-- Sample `n` of a reconstruction is a sum over the taps of the parity of `n`; tap `t` meets
coefficient `(n + taps - 2 - t) / 2` of each band. -/
theorem reconstructedAt_eq_sum (bank : FilterBank ρ) (even : Even bank.taps) (bands : Bands ρ)
    (same : bands.approx.size = bands.detail.size)
    (n : Fin (reconstructionLength bands.approx.size bank.taps)) :
    reconstructedAt bank bands same n =
      ∑ t : Fin bank.taps, if t.val % 2 = n.val % 2 then
        bank.recLow[t] * bands.approx[(n.val + bank.taps - 2 - t) / 2]?.getD 0
          + bank.recHigh[t] * bands.detail[(n.val + bank.taps - 2 - t) / 2]?.getD 0 else 0 := by
  have bound := n.isLt
  unfold reconstructionLength at bound
  unfold reconstructedAt
  rw [foldl_add_eq_sum]
  have inside : ∀ j : Fin (bank.taps / 2), 2 * j.val + n.val % 2 < bank.taps := fun j => by
    have := j.isLt
    omega
  rw [← sum_every_second even (n.val % 2) (Nat.mod_lt _ two_pos)
    (fun t => bank.recLow[t] * bands.approx[(n.val + bank.taps - 2 - t) / 2]?.getD 0
      + bank.recHigh[t] * bands.detail[(n.val + bank.taps - 2 - t) / 2]?.getD 0) inside]
  refine Finset.sum_congr rfl fun j _ => ?_
  have := inside j
  have last : n.val / 2 + (bank.taps / 2 - 1 - j.val) < bands.approx.size := by omega
  have place : (n.val + bank.taps - 2 - (2 * j.val + n.val % 2)) / 2 = n.val / 2 + (bank.taps / 2 - 1 - j.val) := by
    obtain ⟨half, half_eq⟩ := even
    omega
  simp only [Fin.getElem_fin, place]
  rw [Array.getElem?_eq_getElem last, Array.getElem?_eq_getElem (same ▸ last)]
  rfl

/-- The same for the bank of a scaling filter, in terms of that filter and its mirror. -/
theorem reconstructedAt_ofScaling (name : String) {taps : ℕ} (even : Even taps) (scaling : Vector ρ taps)
    (bands : Bands ρ) (same : bands.approx.size = bands.detail.size)
    (n : Fin (reconstructionLength bands.approx.size taps)) :
    reconstructedAt (.ofScaling name scaling) bands same n =
      ∑ t : Fin taps, if t.val % 2 = n.val % 2 then
        scaling[t] * bands.approx[(n.val + taps - 2 - t) / 2]?.getD 0
          + (FilterBank.mirror scaling)[t] * bands.detail[(n.val + taps - 2 - t) / 2]?.getD 0 else 0 :=
  reconstructedAt_eq_sum (.ofScaling name scaling) even bands same n

end BufferScope.Wavelet
