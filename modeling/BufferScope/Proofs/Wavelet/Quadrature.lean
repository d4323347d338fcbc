/-
The relations between the four filters of a bank, over any commutative ring. Whatever the scaling filter of even length,
its mirror has the same autocorrelation at even lags and stands at a right angle to it after every even move, and both
filters together, moved by all even shifts, give back the autocorrelation between any two places at an even distance and
nothing between two at an odd one.
-/
import Mathlib.Algebra.BigOperators.Finprod
import BufferScope.Proofs.Wavelet.Tap

namespace BufferScope.Wavelet

open FilterBank (mirror)

variable {ρ : Type} [CommRing ρ] {taps : ℕ}

/-- What two places have of a filter and of its companion, both moved by the even shift `2 * l`. -/
def meeting (low high : Vector ρ taps) (n m l : ℤ) : ρ :=
  tapAt low (n - 2 * l) * tapAt low (m - 2 * l) + tapAt high (n - 2 * l) * tapAt high (m - 2 * l)

/-! ## One lag -/

/-- Products at one lag are products at all even distances with a weight that leaves the others out. -/
theorem crossCorrelation_even (first second : Vector ρ taps) (j : ℤ) :
    crossCorrelation first second (2 * j) = evenPairs first second fun d => if d = 2 * j then 1 else 0 := by
  unfold crossCorrelation evenPairs
  refine Finset.sum_congr rfl fun t _ => ?_
  rw [tapAt_eq_sum, Finset.mul_sum]
  refine Finset.sum_congr rfl fun s _ => ?_
  have met : (s : ℤ) = t + 2 * j ↔ (s : ℤ) - t = 2 * j := by omega
  simp only [met]
  by_cases here : (s : ℤ) - t = 2 * j
  · rw [if_pos here, if_pos (here ▸ even_two_mul j), if_pos here, mul_one]
  · rw [if_neg here, if_neg here, mul_zero, mul_zero, ite_self]

/-! ## All even shifts -/

/-- Moved by all even shifts, a filter shows a place each of its taps of one parity. -/
theorem finsum_even_shifts (term : ℤ → ρ)
    (vanishes : ∀ k : ℤ, ¬(0 ≤ k ∧ k < taps) → term k = 0) (n : ℤ) :
    (Function.support fun l : ℤ => term (n - 2 * l)).Finite ∧
      ∑ᶠ l : ℤ, term (n - 2 * l) = ∑ t : Fin taps, if (t : ℤ) % 2 = n % 2 then term t else 0 := by
  -- each tap of the right parity meets the place under one shift
  let shifts : Finset ℤ :=
    (Finset.univ.filter fun t : Fin taps => (t : ℤ) % 2 = n % 2).image fun t : Fin taps => (n - t) / 2
  have within : (Function.support fun l : ℤ => term (n - 2 * l)) ⊆ shifts := by
    intro l nonzero
    have inside : 0 ≤ n - 2 * l ∧ n - 2 * l < taps := by
      by_contra outside
      exact nonzero (vanishes _ outside)
    rw [Finset.mem_coe, Finset.mem_image]
    refine ⟨⟨(n - 2 * l).toNat, by omega⟩, ?_, ?_⟩
    · rw [Finset.mem_filter]
      refine ⟨Finset.mem_univ _, ?_⟩
      dsimp only
      omega
    · dsimp only
      omega
  refine ⟨shifts.finite_toSet.subset within, ?_⟩
  rw [finsum_eq_sum_of_support_subset _ within, Finset.sum_image, Finset.sum_filter]
  · refine Finset.sum_congr rfl fun t _ => ?_
    split
    · next parity =>
      have back : n - 2 * ((n - t) / 2) = t := by omega
      rw [back]
    · rfl
  · intro t parity s parity' same
    rw [Finset.mem_coe, Finset.mem_filter] at parity parity'
    dsimp only at same
    apply Fin.ext
    omega

/-- Between two places, a filter and its mirror at all even shifts leave the autocorrelation of the filter at even
distances, and cancel at odd ones. -/
theorem finsum_meeting (even : Even taps) (filter : Vector ρ taps) (n m : ℤ) :
    (Function.support (meeting filter (mirror filter) n m)).Finite ∧
      ∑ᶠ l : ℤ, meeting filter (mirror filter) n m l =
        if Even (m - n) then autocorrelation filter (m - n) else 0 := by
  let term (k : ℤ) : ρ :=
    tapAt filter k * tapAt filter (k + (m - n)) + tapAt (mirror filter) k * tapAt (mirror filter) (k + (m - n))
  have vanishes : ∀ k : ℤ, ¬(0 ≤ k ∧ k < taps) → term k = 0 := by
    intro k outside
    simp only [term, tapAt_outside _ outside, zero_mul, add_zero]
  have moved : meeting filter (mirror filter) n m = fun l => term (n - 2 * l) := by
    funext l
    have place : n - 2 * l + (m - n) = m - 2 * l := by ring
    simp only [term, place]
    rfl
  -- the taps that meet `n` have its parity, and the one at `m` is as far behind as the places are apart
  have bit : (n % 2).toNat < 2 := by omega
  have weighted := sum_mirror_pairs even filter (n % 2).toNat bit fun d => if d = m - n then 1 else 0
  obtain ⟨finite, sum⟩ := finsum_even_shifts term vanishes n
  rw [moved]
  refine ⟨finite, sum.trans ?_⟩
  calc _ = ∑ t : Fin taps, ∑ s : Fin taps, if t.val % 2 = (n % 2).toNat then
            (filter[t] * filter[s] + (mirror filter)[t] * (mirror filter)[s]) * (if (s : ℤ) - t = m - n then 1 else 0)
            else 0 := by
        refine Finset.sum_congr rfl fun t _ => ?_
        have parity : (t : ℤ) % 2 = n % 2 ↔ t.val % 2 = (n % 2).toNat := by omega
        have met : ∀ s : Fin taps, (s : ℤ) = t + (m - n) ↔ (s : ℤ) - t = m - n := fun s => by omega
        simp only [parity]
        split
        · simp only [term, tapAt_natCast]
          rw [tapAt_eq_sum, tapAt_eq_sum, Finset.mul_sum, Finset.mul_sum, ← Finset.sum_add_distrib]
          refine Finset.sum_congr rfl fun s _ => ?_
          simp only [met]
          split <;> ring
        · exact Finset.sum_const_zero.symm
    _ = ∑ d ∈ evenLags taps, if d = m - n then autocorrelation filter d else 0 := by
        rw [weighted]
        refine Finset.sum_congr rfl fun d _ => ?_
        split
        · rw [mul_one]
        · rw [mul_zero]
    _ = if m - n ∈ evenLags taps then autocorrelation filter (m - n) else 0 :=
        Finset.sum_ite_eq' (evenLags taps) (m - n) fun d => autocorrelation filter d
    _ = if Even (m - n) then autocorrelation filter (m - n) else 0 := by
        simp only [mem_evenLags]
        by_cases near : -(taps : ℤ) < m - n ∧ m - n < taps
        · simp only [near, and_self, true_and]
        · rw [if_neg fun lag => near lag.1, autocorrelation_far filter near, ite_self]

/-! ## The bank -/

/-- The filters of the bank of a scaling filter. At even lags the high-pass filter has the autocorrelation of the
scaling filter, and its products with the low-pass filter cancel; the decomposition filters are the reconstruction
filters backwards; and the two filters at all even shifts add up, between any two places, to the autocorrelation of the
scaling filter if the places are an even distance apart, and to nothing otherwise. -/
theorem ofScaling_quadrature (name : String) (scaling : Vector ρ taps) (even : Even taps) :
    (∀ j : ℤ,
      crossCorrelation (FilterBank.ofScaling name scaling).recHigh (FilterBank.ofScaling name scaling).recHigh (2 * j) =
        autocorrelation scaling (2 * j)) ∧
    (∀ j : ℤ,
      crossCorrelation (FilterBank.ofScaling name scaling).recLow (FilterBank.ofScaling name scaling).recHigh (2 * j) =
        0) ∧
    ((FilterBank.ofScaling name scaling).decLow = (FilterBank.ofScaling name scaling).recLow.reverse ∧
      (FilterBank.ofScaling name scaling).decHigh = (FilterBank.ofScaling name scaling).recHigh.reverse) ∧
    ∀ n m : ℤ, (Function.support (meeting scaling (FilterBank.ofScaling name scaling).recHigh n m)).Finite ∧
      ∑ᶠ l : ℤ, meeting scaling (FilterBank.ofScaling name scaling).recHigh n m l =
        if Even (m - n) then autocorrelation scaling (m - n) else 0 := by
  refine ⟨fun j => ?_, fun j => ?_, ⟨rfl, rfl⟩, finsum_meeting even scaling⟩
  · calc crossCorrelation (mirror scaling) (mirror scaling) (2 * j)
        = evenPairs scaling scaling fun d => if d = 2 * j then 1 else 0 := by
          rw [crossCorrelation_even, evenPairs_mirror even]
      _ = autocorrelation scaling (2 * j) := (crossCorrelation_even scaling scaling j).symm
  · exact (crossCorrelation_even scaling (mirror scaling) j).trans (evenPairs_filter_mirror even scaling _)

/-- Four taps that are not orthonormal: at lag two, and between two places an even and an odd distance apart. -/
theorem ofScaling_quadrature_rising :
    Even 4 ∧
    crossCorrelation (FilterBank.ofScaling "rising" #v[1, 2, 3, (4 : ℤ)]).recHigh
      (FilterBank.ofScaling "rising" #v[1, 2, 3, (4 : ℤ)]).recHigh (2 * 1) = 11 ∧
    crossCorrelation (FilterBank.ofScaling "rising" #v[1, 2, 3, (4 : ℤ)]).recLow
      (FilterBank.ofScaling "rising" #v[1, 2, 3, (4 : ℤ)]).recHigh (2 * -1) = 0 ∧
    ∑ᶠ l : ℤ, meeting #v[1, 2, 3, (4 : ℤ)] (FilterBank.ofScaling "rising" #v[1, 2, 3, (4 : ℤ)]).recHigh
      5 7 l = 11 ∧
    ∑ᶠ l : ℤ, meeting #v[1, 2, 3, (4 : ℤ)] (FilterBank.ofScaling "rising" #v[1, 2, 3, (4 : ℤ)]).recHigh
      5 6 l = 0 := by
  obtain ⟨high, cross, -, shifts⟩ := ofScaling_quadrature "rising" #v[1, 2, 3, (4 : ℤ)] (by decide)
  refine ⟨by decide, ?_, cross (-1), ?_, ?_⟩
  · exact (high 1).trans (by decide +kernel)
  · exact (shifts 5 7).2.trans (by decide +kernel)
  · exact (shifts 5 6).2.trans (by decide +kernel)

end BufferScope.Wavelet
