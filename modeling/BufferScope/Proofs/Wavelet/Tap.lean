/-
Filters read at any whole index, and the relation between a scaling filter and its mirror that the
transforms rest on: when both filters are taken at one parity of the first tap, the products at odd
lags cancel, and those at even lags add up to the autocorrelation of the scaling filter.
-/
import Mathlib.Algebra.BigOperators.Fin
import Mathlib.Data.Int.Interval
import Mathlib.Tactic
import BufferScope.Wavelet.FilterBank

namespace BufferScope.Wavelet

variable {ρ : Type} [CommRing ρ] {taps : ℕ}

/-- The tap at any whole index. Taps outside the filter count as zero. -/
def tapAt (filter : Vector ρ taps) (k : ℤ) : ρ :=
  if inside : 0 ≤ k ∧ k < taps then filter[k.toNat] else 0

/-- The sum of the products of taps that are `lag` apart. -/
def autocorrelation (filter : Vector ρ taps) (lag : ℤ) : ρ := ∑ t : Fin taps, filter[t] * tapAt filter (t + lag)

/-- The sum of the products of the taps of one filter with those of another that are `lag` further on. -/
def crossCorrelation (first second : Vector ρ taps) (lag : ℤ) : ρ :=
  ∑ t : Fin taps, first[t] * tapAt second (t + lag)

/-- The even lags at which taps of one filter can meet. -/
noncomputable def evenLags (taps : ℕ) : Finset ℤ := (Finset.Ioo (-taps : ℤ) taps).filter Even

theorem mem_evenLags {d : ℤ} : d ∈ evenLags taps ↔ (-taps < d ∧ d < taps) ∧ Even d := by
  simp [evenLags]

theorem zero_mem_evenLags (positive : 0 < taps) : 0 ∈ evenLags taps := by
  rw [mem_evenLags]
  exact ⟨⟨by omega, by omega⟩, Even.zero⟩

theorem tapAt_natCast (filter : Vector ρ taps) (t : Fin taps) : tapAt filter t = filter[t] := by
  have inside : (0 : ℤ) ≤ t ∧ (t : ℤ) < taps := ⟨by omega, by have := t.isLt; omega⟩
  unfold tapAt
  rw [dif_pos inside]
  simp

theorem tapAt_outside (filter : Vector ρ taps) {k : ℤ} (outside : ¬ (0 ≤ k ∧ k < taps)) :
    tapAt filter k = 0 := by
  unfold tapAt
  rw [dif_neg outside]

theorem tapAt_eq_sum (filter : Vector ρ taps) (k : ℤ) :
    tapAt filter k = ∑ s : Fin taps, if (s : ℤ) = k then filter[s] else 0 := by
  by_cases inside : 0 ≤ k ∧ k < taps
  · obtain ⟨n, rfl⟩ := Int.eq_ofNat_of_zero_le inside.1
    have below : n < taps := by omega
    rw [Finset.sum_eq_single_of_mem ⟨n, below⟩ (Finset.mem_univ _), if_pos rfl]
    · exact tapAt_natCast filter ⟨n, below⟩
    · intro s _ other
      rw [if_neg fun same => other (Fin.ext (Int.ofNat_inj.mp same))]
  · rw [tapAt_outside filter inside]
    refine (Finset.sum_eq_zero fun s _ => if_neg ?_).symm
    have := s.isLt
    omega

/-- Taps further apart than the filter is long do not meet. -/
theorem autocorrelation_far (filter : Vector ρ taps) {d : ℤ} (far : ¬ (-taps < d ∧ d < taps)) :
    autocorrelation filter d = 0 := by
  unfold autocorrelation
  refine Finset.sum_eq_zero fun t _ => ?_
  have := t.isLt
  rw [tapAt_outside filter (by omega), mul_zero]

/-- Whether a filter has length one and stands at a right angle to itself after every even move. -/
structure Orthonormal (filter : Vector ρ taps) : Prop where
  unit : autocorrelation filter 0 = 1
  orthogonal : ∀ d : ℤ, Even d → d ≠ 0 → autocorrelation filter d = 0

/-- Four taps that are all one half in size. -/
theorem orthonormal_halves : Orthonormal (#v[1 / 2, 1 / 2, 1 / 2, -1 / 2] : Vector ℚ 4) where
  unit := by decide +kernel
  orthogonal d whole nonzero := by
    by_cases near : -(4 : ℕ) < d ∧ d < (4 : ℕ)
    · rw [Int.even_iff] at whole
      obtain rfl | rfl : d = -2 ∨ d = 2 := by omega
      · decide +kernel
      · decide +kernel
    · exact autocorrelation_far _ near

/-! ## Sums over lags -/

/-- The autocorrelation of an orthonormal filter picks out what is at lag zero. -/
theorem Orthonormal.sum_evenLags {filter : Vector ρ taps} (orthonormal : Orthonormal filter) (positive : 0 < taps)
    (weight : ℤ → ρ) : ∑ d ∈ evenLags taps, autocorrelation filter d * weight d = weight 0 := by
  rw [Finset.sum_eq_single_of_mem 0 (zero_mem_evenLags positive)]
  · rw [orthonormal.unit, one_mul]
  · intro d lag nonzero
    rw [orthonormal.orthogonal d (mem_evenLags.mp lag).2 nonzero, zero_mul]

/-- Half the even lags, which are all the whole numbers below half the number of taps in size. -/
noncomputable def halfLags (taps : ℕ) : Finset ℤ := Finset.Ioo (-(taps / 2 : ℕ) : ℤ) (taps / 2 : ℕ)

theorem sum_evenLags (even : Even taps) (term : ℤ → ρ) :
    ∑ d ∈ evenLags taps, term d = ∑ l ∈ halfLags taps, term (2 * l) := by
  unfold halfLags
  obtain ⟨half, rfl⟩ := even
  refine Finset.sum_nbij' (fun d => d / 2) (fun l => 2 * l) ?_ ?_ ?_ ?_ ?_
  · intro d lag
    rw [mem_evenLags, Int.even_iff] at lag
    rw [Finset.mem_Ioo]
    omega
  · intro l inside
    rw [Finset.mem_Ioo] at inside
    rw [mem_evenLags, Int.even_iff]
    omega
  · intro d lag
    rw [mem_evenLags, Int.even_iff] at lag
    omega
  · intro l _
    omega
  · intro d lag
    rw [mem_evenLags, Int.even_iff] at lag
    rw [Int.mul_ediv_cancel_of_dvd (by omega)]

/-- A sum over the taps at an even distance from a given place is a sum over even lags. -/
theorem sum_even_distance (filter : Vector ρ taps) (t : Fin taps) (weight : ℤ → ρ) :
    (∑ s : Fin taps, if Even ((s : ℤ) - t) then filter[s] * weight (s - t) else 0) =
      ∑ d ∈ evenLags taps, tapAt filter (t + d) * weight d := by
  rw [← Finset.sum_filter]
  -- a lag that leads out of the filter contributes nothing
  rw [← Finset.sum_filter_of_ne (p := fun d : ℤ => 0 ≤ (t : ℤ) + d ∧ (t : ℤ) + d < taps)]
  · refine Finset.sum_nbij' (fun s => (s : ℤ) - t) (fun d => ⟨((t : ℤ) + d).toNat % taps, ?_⟩) ?_ ?_ ?_ ?_ ?_
    · exact Nat.mod_lt _ (by have := t.isLt; omega)
    · intro s hs
      rw [Finset.mem_filter] at hs
      have := s.isLt
      have := t.isLt
      rw [Finset.mem_filter, mem_evenLags]
      exact ⟨⟨⟨by omega, by omega⟩, hs.2⟩, by omega, by omega⟩
    · intro d hd
      rw [Finset.mem_filter, mem_evenLags] at hd
      obtain ⟨⟨-, even⟩, low, high⟩ := hd
      rw [Finset.mem_filter]
      refine ⟨Finset.mem_univ _, ?_⟩
      have back : ((((t : ℤ) + d).toNat % taps : ℕ) : ℤ) - t = d := by
        rw [Nat.mod_eq_of_lt (by omega)]
        omega
      simpa only [back] using even
    · intro s _
      have := s.isLt
      apply Fin.ext
      simp only [add_sub_cancel, Int.toNat_natCast]
      exact Nat.mod_eq_of_lt s.isLt
    · intro d hd
      rw [Finset.mem_filter] at hd
      have := hd.2
      simp only
      rw [Nat.mod_eq_of_lt (by omega)]
      omega
    · intro s _
      rw [add_sub_cancel, tapAt_natCast]
  · intro d _ hne
    by_contra outside
    exact hne (by rw [tapAt_outside filter outside, zero_mul])

/-- The products of taps of two filters at even distances, weighted by the distance. -/
def evenPairs (first second : Vector ρ taps) (weight : ℤ → ρ) : ρ :=
  ∑ t : Fin taps, ∑ s : Fin taps, if Even ((s : ℤ) - t) then first[t] * second[s] * weight (s - t) else 0

/-- Of a filter with itself, they are a sum over even lags. -/
theorem evenPairs_self (filter : Vector ρ taps) (weight : ℤ → ρ) :
    evenPairs filter filter weight = ∑ d ∈ evenLags taps, autocorrelation filter d * weight d := by
  calc evenPairs filter filter weight
      = ∑ t : Fin taps, filter[t] * ∑ d ∈ evenLags taps, tapAt filter (t + d) * weight d := by
        refine Finset.sum_congr rfl fun t _ => ?_
        rw [← sum_even_distance, Finset.mul_sum]
        refine Finset.sum_congr rfl fun s _ => ?_
        split <;> ring
    _ = ∑ d ∈ evenLags taps, ∑ t : Fin taps, filter[t] * (tapAt filter (t + d) * weight d) := by
        simp only [Finset.mul_sum]
        exact Finset.sum_comm
    _ = ∑ d ∈ evenLags taps, autocorrelation filter d * weight d := by
        refine Finset.sum_congr rfl fun d _ => ?_
        unfold autocorrelation
        rw [Finset.sum_mul]
        exact Finset.sum_congr rfl fun t _ => by ring

theorem evenPairs_swap (first second : Vector ρ taps) (weight : ℤ → ρ) :
    evenPairs first second weight = evenPairs second first fun d => weight (-d) := by
  unfold evenPairs
  rw [Finset.sum_comm]
  refine Finset.sum_congr rfl fun s _ => Finset.sum_congr rfl fun t _ => ?_
  refine if_congr ?_ ?_ rfl
  · rw [← even_neg, neg_sub]
  · dsimp only
    rw [neg_sub, mul_comm first[t]]

/-- A sum over pairs of taps, with both taps reflected and their roles exchanged. -/
theorem sum_reflected (term : Fin taps → Fin taps → ρ) :
    ∑ t, ∑ s, term t s = ∑ t : Fin taps, ∑ s : Fin taps, term s.rev t.rev := by
  rw [Finset.sum_comm, ← Equiv.sum_comp Fin.revPerm]
  refine Finset.sum_congr rfl fun t _ => ?_
  rw [← Equiv.sum_comp Fin.revPerm]
  rfl

/-! ## A filter and its mirror -/

namespace FilterBank

theorem getElem_mirror (filter : Vector ρ taps) (k : Fin taps) :
    (mirror filter)[k] = if k.val % 2 = 0 then filter[k.rev] else -filter[k.rev] := by
  have place : taps - 1 - k.val = taps - (k.val + 1) := by omega
  unfold mirror
  simp only [Fin.getElem_fin, Vector.getElem_ofFn, Fin.val_rev, place]

/-- Read backwards, the mirror of a filter of even length is the filter with the even taps negated. -/
theorem getElem_mirror_rev (even : Even taps) (filter : Vector ρ taps) (k : Fin taps) :
    (mirror filter)[k.rev] = if k.val % 2 = 0 then -filter[k] else filter[k] := by
  obtain ⟨half, rfl⟩ := even
  have := k.isLt
  have back : half + half - 1 - (half + half - (k.val + 1)) = k.val := by omega
  unfold mirror
  simp only [Fin.getElem_fin, Vector.getElem_ofFn, Fin.val_rev, back]
  split <;> split <;> first | rfl | omega

end FilterBank

open FilterBank (mirror getElem_mirror getElem_mirror_rev)

/-- Exchanging two taps and reflecting them keeps their distance. -/
theorem rev_sub_rev (t s : Fin taps) : ((t.rev : ℕ) : ℤ) - (s.rev : ℕ) = s - t := by
  have := t.isLt
  have := s.isLt
  simp only [Fin.val_rev]
  omega

theorem even_distance_iff {t s : Fin taps} : Even ((s : ℤ) - t) ↔ s.val % 2 = t.val % 2 := by
  rw [Int.even_iff]
  omega

/-- Over first taps of one parity, the products of the taps of a filter and those of its mirror pair
up: what is left of their sum is the products of the filter's own taps at even distances. -/
theorem sum_mirror_pairs (even : Even taps) (filter : Vector ρ taps) (parity : ℕ) (bit : parity < 2)
    (weight : ℤ → ρ) :
    (∑ t : Fin taps, ∑ s : Fin taps,
        if t.val % 2 = parity then (filter[t] * filter[s] + (mirror filter)[t] * (mirror filter)[s]) * weight (s - t)
        else 0) =
      ∑ d ∈ evenLags taps, autocorrelation filter d * weight d := by
  rw [← evenPairs_self]
  unfold evenPairs
  calc _ = (∑ t : Fin taps, ∑ s : Fin taps,
            if t.val % 2 = parity then filter[t] * filter[s] * weight (s - t) else 0) +
          ∑ t : Fin taps, ∑ s : Fin taps,
            if t.val % 2 = parity then (mirror filter)[t] * (mirror filter)[s] * weight (s - t) else 0 := by
        simp only [← Finset.sum_add_distrib]
        refine Finset.sum_congr rfl fun t _ => Finset.sum_congr rfl fun s _ => ?_
        split <;> ring
    _ = _ := by
        rw [sum_reflected fun t s =>
          if t.val % 2 = parity then (mirror filter)[t] * (mirror filter)[s] * weight (s - t) else 0,
          ← Finset.sum_add_distrib]
        refine Finset.sum_congr rfl fun t _ => ?_
        rw [← Finset.sum_add_distrib]
        refine Finset.sum_congr rfl fun s _ => ?_
        -- Reflection changes the parity of a tap. At an even distance the mirror supplies the products that
        -- the parity leaves out; at an odd one it cancels those that are left.
        rw [getElem_mirror_rev even, getElem_mirror_rev even, rev_sub_rev]
        have turned : s.rev.val % 2 = parity ↔ s.val % 2 ≠ parity := by
          obtain ⟨half, rfl⟩ := even
          have := s.isLt
          simp only [Fin.val_rev]
          omega
        simp only [turned, even_distance_iff]
        split_ifs <;> first | omega | ring1

/-- At even distances the taps of the mirror have the same products as those of the filter. -/
theorem evenPairs_mirror (even : Even taps) (filter : Vector ρ taps) (weight : ℤ → ρ) :
    evenPairs (mirror filter) (mirror filter) weight = evenPairs filter filter weight := by
  unfold evenPairs
  rw [sum_reflected]
  refine Finset.sum_congr rfl fun t _ => Finset.sum_congr rfl fun s _ => ?_
  rw [getElem_mirror_rev even, getElem_mirror_rev even]
  simp only [rev_sub_rev, even_distance_iff]
  split_ifs <;> first | omega | ring1

/-- At even distances the products of a filter with its mirror cancel in pairs. -/
theorem evenPairs_filter_mirror (even : Even taps) (filter : Vector ρ taps) (weight : ℤ → ρ) :
    evenPairs filter (mirror filter) weight = 0 := by
  unfold evenPairs
  rw [← Fintype.sum_prod_type']
  refine Finset.sum_involution (fun p _ => (p.2.rev, p.1.rev)) (fun p _ => ?_) (fun p _ nonzero same => ?_)
    (fun _ _ => Finset.mem_univ _) fun p _ => ?_
  · -- the two taps of a pair have one parity, so just one of the products changes its sign
    rw [getElem_mirror, getElem_mirror_rev even, rev_sub_rev]
    simp only [even_distance_iff]
    split_ifs <;> first | omega | ring1
  · -- a pair that is its own reflection is at an odd distance
    obtain ⟨half, rfl⟩ := even
    refine nonzero (if_neg fun whole => ?_)
    have first := congrArg Fin.val (congrArg Prod.fst same)
    rw [even_distance_iff] at whole
    simp only [Fin.val_rev] at first
    omega
  · rw [Fin.rev_rev, Fin.rev_rev]

theorem evenPairs_mirror_filter (even : Even taps) (filter : Vector ρ taps) (weight : ℤ → ρ) :
    evenPairs (mirror filter) filter weight = 0 := by
  rw [evenPairs_swap, evenPairs_filter_mirror even]

end BufferScope.Wavelet
