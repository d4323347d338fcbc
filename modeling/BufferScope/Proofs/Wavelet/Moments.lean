/-
Signals along a line, over any commutative ring. The smooth extension goes on along the line past both edges, and every
extension but the zero one along a level line; so each coefficient, at the edges too, is given by the first two moments
of its filter, and a filter without these has no detail on such a signal.
-/
import BufferScope.Proofs.Wavelet.Extension
import BufferScope.Proofs.Wavelet.Transform

namespace BufferScope.Wavelet

variable {ρ : Type} [CommRing ρ] {taps : ℕ}

/-- The sum of the taps of a filter, each with a power of its place. -/
def moment (filter : Vector ρ taps) (order : ℕ) : ρ := ∑ t : Fin taps, (t.val : ρ) ^ order * filter.get t

/-! ## Past the edges -/

section Line

variable {p q : ρ} {signal : Array ρ} (line : ∀ i (inside : i < signal.size), signal[i] = p + q * i)

include line

/-- Two samples are enough for the smooth extension to go on along their line. -/
theorem smooth_sampleAt_line (two : 2 ≤ signal.size) (nonempty : 0 < signal.size) (i : ℤ) :
    Extension.smooth.sampleAt signal nonempty i = p + q * i := by
  unfold Extension.sampleAt
  dsimp only
  split
  · next inside =>
    obtain ⟨n, rfl⟩ := Int.eq_ofNat_of_zero_le inside.1
    rw [line, Int.toNat_natCast, Int.cast_natCast]
  · next outside =>
    rw [dif_neg (by omega)]
    split
    · next before =>
      obtain ⟨n, rfl⟩ : ∃ n : ℕ, i = -n := ⟨(-i).toNat, by omega⟩
      rw [line, line, neg_neg, Int.toNat_natCast]
      push_cast
      ring
    · next after =>
      obtain ⟨m, size⟩ := Nat.exists_eq_add_of_le' two
      obtain ⟨n, rfl⟩ : ∃ n : ℕ, i = m + 1 + n := ⟨(i - (m + 1)).toNat, by omega⟩
      have last : signal.size - 1 = m + 1 := by omega
      have secondLast : signal.size - 2 = m := by omega
      have steps : ((m + 1 + n : ℤ) - (m + 1 : ℕ)).toNat = n := by omega
      simp only [line, last, secondLast, steps]
      push_cast
      ring

/-- A level signal stays level under every extension but the one by zeros. -/
theorem sampleAt_level (level : q = 0) {mode : Extension} (notZero : mode ≠ .zero)
    (nonempty : 0 < signal.size) (i : ℤ) :
    mode.sampleAt signal nonempty i = p + q * i := by
  have everywhere : ∀ n (inside : n < signal.size), signal[n] = p + q * i := by
    intro n inside
    rw [line, level, zero_mul, zero_mul]
  unfold Extension.sampleAt
  dsimp only
  split
  · exact everywhere _ _
  · cases mode with
    | smooth =>
      dsimp only
      split
      · exact everywhere _ _
      · simp only [everywhere, sub_self, mul_zero, add_zero, ite_self]
    | zero => exact absurd rfl notZero
    | constant => simp only [everywhere, ite_self]
    | symmetric =>
      dsimp only
      split
      · exact everywhere _ _
      · exact everywhere _ _

end Line

/-! ## Coefficients -/

/-- A coefficient of a line: the line at the centre of the window, less its slope for the places of the taps. -/
theorem coefficient_line {p q : ρ} {signal : Array ρ} {mode : Extension} (nonempty : 0 < signal.size)
    (extended : ∀ i : ℤ, mode.sampleAt signal nonempty i = p + q * i) (filter : Vector ρ taps) (center : ℤ) :
    coefficient filter mode signal nonempty center =
      (p + q * center) * moment filter 0 - q * moment filter 1 := by
  rw [coefficient_eq_sum]
  unfold moment
  rw [Finset.mul_sum, Finset.mul_sum, ← Finset.sum_sub_distrib]
  refine Finset.sum_congr rfl fun t _ => ?_
  rw [extended]
  push_cast
  ring

/-- Signals along a line. Past its edges the smooth extension of two samples or more goes on along their line, and so
does every extension but the zero one if the line is level. The signal then has bands, and each of their coefficients,
at the edges too, is the line at the centre of its window times the sum of the taps of its filter, less the slope times
the sum of the taps with their places. Without these two moments there is no detail at all. -/
theorem decompose_line (bank : FilterBank ρ) (mode : Extension) (p q : ρ) (signal : Array ρ)
    (line : ∀ i (inside : i < signal.size), signal[i] = p + q * i) (nonempty : 0 < signal.size)
    (goesOn : mode = .smooth ∧ 2 ≤ signal.size ∨ mode ≠ .zero ∧ q = 0) :
    (∀ i : ℤ, mode.sampleAt signal nonempty i = p + q * i) ∧
    ∃ bands, decompose bank mode signal = .ok bands ∧
      bands.approx.size = coefficientCount signal.size bank.taps ∧
      bands.detail.size = coefficientCount signal.size bank.taps ∧
      (∀ k < coefficientCount signal.size bank.taps,
        bands.approx[k]? = some ((p + q * (2 * k + 1)) * moment bank.decLow 0 - q * moment bank.decLow 1) ∧
        bands.detail[k]? = some ((p + q * (2 * k + 1)) * moment bank.decHigh 0 - q * moment bank.decHigh 1)) ∧
      (moment bank.decHigh 0 = 0 → moment bank.decHigh 1 = 0 → ∀ d ∈ bands.detail, d = 0) := by
  have extended : ∀ i : ℤ, mode.sampleAt signal nonempty i = p + q * i := by
    obtain ⟨rfl, two⟩ | ⟨notZero, level⟩ := goesOn
    · exact smooth_sampleAt_line line two nonempty
    · exact sampleAt_level line level notZero nonempty
  have coefficients : ∀ (filter : Vector ρ bank.taps) (k : ℕ), k < coefficientCount signal.size bank.taps →
      (band filter mode signal nonempty)[k]? =
        some ((p + q * (2 * k + 1)) * moment filter 0 - q * moment filter 1) := by
    intro filter k inside
    rw [getElem?_band _ _ _ _ inside, coefficient_line nonempty extended]
    push_cast
    rfl
  refine ⟨extended, _, decompose_of_nonempty bank mode signal nonempty, size_band .., size_band ..,
    fun k inside => ⟨coefficients bank.decLow k inside, coefficients bank.decHigh k inside⟩,
    fun noSum noPlaces d member => ?_⟩
  obtain ⟨k, inside, rfl⟩ := Array.mem_iff_getElem.mp member
  have coefficient := coefficients bank.decHigh k (by rwa [size_band] at inside)
  rw [noSum, noPlaces, mul_zero, mul_zero, sub_zero, Array.getElem?_eq_getElem inside] at coefficient
  exact Option.some.inj coefficient

/-- A bank that halves neighbours, and has the second differences as its detail. -/
def secondDifferences : FilterBank ℚ where
  name := "second differences"
  taps := 3
  decLow := #v[1 / 2, 1 / 2, 0]
  decHigh := #v[1, -2, 1]
  recLow := #v[0, 0, 0]
  recHigh := #v[0, 0, 0]

theorem decompose_line_rising :
    (∀ i (inside : i < (#[3, 5, 7] : Array ℚ).size), (#[3, 5, 7] : Array ℚ)[i] = 3 + 2 * i) ∧
    0 < (#[3, 5, 7] : Array ℚ).size ∧
    (Extension.smooth = .smooth ∧ 2 ≤ (#[3, 5, 7] : Array ℚ).size ∨
      Extension.smooth ≠ .zero ∧ (2 : ℚ) = 0) ∧
    Extension.smooth.sampleAt (#[3, 5, 7] : Array ℚ) (by decide) (-5) = -7 ∧
    ∃ bands, decompose secondDifferences .smooth #[3, 5, 7] = .ok bands ∧
      bands.approx[0]? = some 4 ∧ bands.approx[1]? = some 8 ∧ ∀ d ∈ bands.detail, d = 0 := by
  have line : ∀ i (inside : i < (#[3, 5, 7] : Array ℚ).size), (#[3, 5, 7] : Array ℚ)[i] = 3 + 2 * i := by
    decide +kernel
  have goesOn : Extension.smooth = .smooth ∧ 2 ≤ (#[3, 5, 7] : Array ℚ).size ∨
      Extension.smooth ≠ .zero ∧ (2 : ℚ) = 0 :=
    .inl ⟨rfl, by decide⟩
  obtain ⟨extended, bands, split, -, -, coefficients, noDetail⟩ :=
    decompose_line secondDifferences .smooth 3 2 #[3, 5, 7] line (by decide) goesOn
  refine ⟨line, by decide, goesOn, (extended (-5)).trans (by decide +kernel), bands, split, ?_, ?_,
    noDetail (by decide +kernel) (by decide +kernel)⟩
  · exact (coefficients 0 (by decide)).1.trans (by decide +kernel)
  · exact (coefficients 1 (by decide)).1.trans (by decide +kernel)

end BufferScope.Wavelet
