/-
The two transforms. Whatever a processor was used for before, it takes every signal and every spectrum
but the empty ones. Over exact complex numbers the spectrum is the discrete Fourier transform as it is
defined, and spectrum and signal undo each other, at every length.
-/
import BufferScope.Proofs.Spectrum.Circle
import BufferScope.Proofs.Spectrum.Sums
import BufferScope.Spectrum.Processor

namespace BufferScope.Spectrum

open BufferScope.Complex (root onCircle)

/-! ## Success -/

section Success

variable {ρ : Type} [Add ρ] [Sub ρ] [Mul ρ] [Div ρ] [Neg ρ] [Zero ρ] [NatCast ρ] [Circular ρ]

@[simp] theorem size_sumsWith (place : ℕ → ℕ) (xs : Array (Complex ρ)) : (sumsWith place xs).size = xs.size := by
  unfold sumsWith
  dsimp only
  split
  · rename_i empty
    exact empty.symm
  · exact Vector.size_toArray _

@[simp] theorem size_spectrum (xs : Array (Complex ρ)) : (spectrum xs).size = xs.size := size_sumsWith _ xs

@[simp] theorem size_signal [One ρ] (bins : Array (Complex ρ)) : (signal bins).size = bins.size := by
  unfold signal
  rw [Array.size_map, size_sumsWith]

theorem Processor.value_planFor (p : Processor) (length : ℕ) : (p.planFor length).value = ⟨length⟩ := by
  unfold planFor
  simp only
  split
  · rfl
  · rfl

/-- A processor has a spectrum for every signal that is not empty. -/
theorem Processor.value_forward {σ : Type} [Sample ρ σ] (p : Processor) {samples : Array σ}
    (nonempty : 0 < samples.size) : (p.forward samples : Logged (_ × Processor)).value =
      (.ok (spectrum (samples.map fun s => Complex.ofReal (Sample.widen s : ρ))), ⟨samples.size⟩) := by
  unfold forward
  rw [if_neg (by simpa [Array.isEmpty_iff_size_eq_zero] using nonempty.ne')]
  simp only [Logged.value_bind, Logged.value_pure, value_planFor]

/-- A processor has a signal for every spectrum that is not empty. -/
theorem Processor.value_inverse [One ρ] (p : Processor) {bins : Array (Complex ρ)} (nonempty : 0 < bins.size) :
    (p.inverse bins).value = (.ok (signal bins), ⟨bins.size⟩) := by
  unfold inverse
  rw [if_neg (by simpa [Array.isEmpty_iff_size_eq_zero] using nonempty.ne')]
  simp only [Logged.value_bind, Logged.value_pure, value_planFor]

/-! ## Log -/

/-- The entry that announces a change of the buffer length. -/
def Processor.planning (length : ℕ) : LogEntry :=
  .event { level := .debug, target := "pysynth_core::domain::transform::fft",
           message := "Planning FFT for new buffer length", fields := [⟨"len", .count length⟩] }

theorem Processor.entries_planFor (p : Processor) (length : ℕ) :
    (p.planFor length).entries = if p.plannedLength = length then [] else [planning length] := by
  unfold planFor
  by_cases same : length = p.plannedLength
  · rw [if_neg (not_not_intro same), if_pos same.symm]
    rfl
  · rw [if_pos same, if_neg (Ne.symm same)]
    rfl

/-- A length that is not zero is announced unless it is the one planned for, if there is one. -/
theorem Processor.entries_planFor_of_planned {p : Processor} {planned : Option ℕ}
    (before : p.plannedLength = planned.getD 0) {length : ℕ} (positive : 0 < length) :
    (p.planFor length).entries = if planned = some length then [] else [planning length] := by
  rw [entries_planFor, before]
  cases planned with
  | none => rw [Option.getD_none, if_neg positive.ne, if_neg (Option.some_ne_none length).symm]
  | some n => simp only [Option.getD_some, Option.some.injEq]

theorem Processor.entries_forward {σ : Type} [Sample ρ σ] (p : Processor) {samples : Array σ}
    (nonempty : 0 < samples.size) : (p.forward samples : Logged (Except _ (Array (Complex ρ)) × Processor)).entries =
      (p.planFor samples.size).entries := by
  unfold forward
  rw [if_neg (by simpa [Array.isEmpty_iff_size_eq_zero] using nonempty.ne')]
  simp only [Logged.entries_bind, Logged.entries_pure, List.append_nil]

theorem Processor.entries_inverse [One ρ] (p : Processor) {bins : Array (Complex ρ)} (nonempty : 0 < bins.size) :
    (p.inverse bins).entries = (p.planFor bins.size).entries := by
  unfold inverse
  rw [if_neg (by simpa [Array.isEmpty_iff_size_eq_zero] using nonempty.ne')]
  simp only [Logged.entries_bind, Logged.entries_pure, List.append_nil]

end Success

/-! ## Orthogonality -/

section Orthogonality

variable {F : Type} [Field F] {n : ℕ} {w : F}

/-- The powers of a primitive root at two frequencies are orthogonal. -/
theorem sum_pow_mul_pow (primitive : IsPrimitiveRoot w n) (j l : Fin n) :
    ∑ k : Fin n, w ^ (k * l : ℕ) * w⁻¹ ^ (j * k : ℕ) = if j = l then (n : F) else 0 := by
  have powers : ∀ k : Fin n, w ^ (k * l : ℕ) * w⁻¹ ^ (j * k : ℕ) = (w ^ l.val * w⁻¹ ^ j.val) ^ k.val := by
    intro k
    rw [mul_pow, ← pow_mul, ← pow_mul, Nat.mul_comm k.val]
  have nonzero : w ≠ 0 := primitive.ne_zero (by have := j.isLt; omega)
  simp only [powers]
  rw [Fin.sum_univ_eq_sum_range fun k => (w ^ l.val * w⁻¹ ^ j.val) ^ k]
  split
  · rename_i same
    rw [same, inv_pow, mul_inv_cancel₀ (pow_ne_zero _ nonzero)]
    simp
  · rename_i different
    have ratio : w ^ l.val * w⁻¹ ^ j.val ≠ 1 := by
      rw [inv_pow, ← div_eq_mul_inv, ne_eq, div_eq_one_iff_eq (pow_ne_zero _ nonzero)]
      exact fun same => different (Fin.ext (primitive.pow_inj l.isLt j.isLt same).symm)
    rw [geom_sum_eq ratio, mul_pow, ← pow_mul, ← pow_mul, Nat.mul_comm, pow_mul, Nat.mul_comm j.val, pow_mul,
      primitive.pow_eq_one, primitive.inv.pow_eq_one, one_pow, one_pow, mul_one, sub_self, zero_div]

/-- Sums over the powers of a root, undone by sums over those of its inverse. -/
theorem sum_pow_sum_pow (primitive : IsPrimitiveRoot w n) (xs : Fin n → F) (l : Fin n) :
    ∑ k : Fin n, w ^ (k * l : ℕ) * ∑ j : Fin n, w⁻¹ ^ (j * k : ℕ) * xs j = n * xs l := by
  calc ∑ k : Fin n, w ^ (k * l : ℕ) * ∑ j : Fin n, w⁻¹ ^ (j * k : ℕ) * xs j
      = ∑ j : Fin n, (∑ k : Fin n, w ^ (k * l : ℕ) * w⁻¹ ^ (j * k : ℕ)) * xs j := by
        simp only [Finset.mul_sum, Finset.sum_mul, mul_assoc]
        exact Finset.sum_comm
    _ = ∑ j : Fin n, if j = l then n * xs j else 0 := by
        refine Finset.sum_congr rfl fun j _ => ?_
        rw [sum_pow_mul_pow primitive, ite_mul, zero_mul]
    _ = n * xs l := by
        rw [Finset.sum_ite_eq' Finset.univ l, if_pos (Finset.mem_univ l)]

end Orthogonality

/-! ## The two maps -/

variable {K : Type} [Field K] [LinearOrder K] [IsStrictOrderedRing K] [Circular K] [ExactCircle K]

/-- Sums whose turns go by the powers of one root of one. -/
theorem getElem_sumsWith {place : ℕ → ℕ} {xs : Array (Complex K)} {w : Complex K} (closes : w ^ xs.size = 1)
    (leads : ∀ k, root K xs.size ^ place k = w ^ k) (k : ℕ) (inside : k < (sumsWith place xs).size) :
    (sumsWith place xs)[k] = ∑ j : Fin xs.size, w ^ (j * k : ℕ) * xs[j] := by
  have short : k < xs.size := by rwa [size_sumsWith] at inside
  have positive : 0 < xs.size := by omega
  unfold sumsWith
  dsimp only
  simp only [dif_neg positive.ne']
  rw [Vector.getElem_toArray]
  refine get_fourierSums closes (fun k z => ?_) xs.toVector ⟨k, short⟩
  have here : place k % xs.size < xs.size := Nat.mod_lt _ positive
  rw [← leads k, pow_eq_pow_mod (place k) (Complex.root_pow_self positive)]
  split
  · rename_i whole
    exact Complex.quarterTurns_of_whole here whole z
  · rw [Vector.getElem_ofFn, Complex.onCircle_eq_pow positive, Nat.mod_mod]

/-- The spectrum is a sum over clockwise turns. -/
theorem getElem_spectrum {n : ℕ} {xs : Array (Complex K)} (size : xs.size = n) (k : ℕ)
    (inside : k < (spectrum xs).size) :
    (spectrum xs)[k] = ∑ j : Fin n, (root K n)⁻¹ ^ (j * k : ℕ) * xs[j.val] := by
  subst size
  have positive : 0 < xs.size := by
    rw [size_spectrum] at inside
    omega
  have whole := Complex.root_pow_self (K := K) positive
  refine getElem_sumsWith (by rw [inv_pow, whole, inv_one]) (fun k => ?_) k inside
  rw [inv_pow, pow_eq_pow_mod k whole]
  refine eq_inv_of_mul_eq_one_left ?_
  rw [← pow_add, Nat.sub_add_cancel (Nat.mod_lt k positive).le, whole]

/-- The signal is a sum over counterclockwise turns, divided by the length. -/
theorem getElem_signal {n : ℕ} {bins : Array (Complex K)} (size : bins.size = n) (l : ℕ)
    (inside : l < (signal bins).size) :
    (signal bins)[l] = (n : Complex K)⁻¹ * ∑ k : Fin n, root K n ^ (k * l : ℕ) * bins[k.val] := by
  subst size
  have positive : 0 < bins.size := by
    rw [size_signal] at inside
    omega
  unfold signal at inside ⊢
  rw [Array.getElem_map, Complex.scale_eq, Complex.ofReal_one_div_natCast positive]
  exact congrArg _ (getElem_sumsWith (Complex.root_pow_self positive) (fun _ => rfl) l _)

/-- The signal of a spectrum is what the spectrum was made of. -/
theorem signal_spectrum (xs : Array (Complex K)) : signal (spectrum xs) = xs := by
  refine Array.ext (by simp) fun l _ inside => ?_
  have nonzero : (xs.size : Complex K) ≠ 0 := Nat.cast_ne_zero.mpr (by omega)
  rw [getElem_signal (size_spectrum xs) l]
  simp only [getElem_spectrum rfl]
  rw [sum_pow_sum_pow (Complex.isPrimitiveRoot_root (by omega)) (fun j => xs[j.val]) ⟨l, inside⟩,
    inv_mul_cancel_left₀ nonzero]

/-- The spectrum of a signal is what the signal was made of. -/
theorem spectrum_signal (bins : Array (Complex K)) : spectrum (signal bins) = bins := by
  refine Array.ext (by simp) fun k _ inside => ?_
  have nonzero : (bins.size : Complex K) ≠ 0 := Nat.cast_ne_zero.mpr (by omega)
  rw [getElem_spectrum (size_signal bins) k]
  simp only [getElem_signal rfl, mul_left_comm _ (bins.size : Complex K)⁻¹]
  rw [← Finset.mul_sum]
  have undone := sum_pow_sum_pow (Complex.isPrimitiveRoot_root (K := K) (by omega)).inv (fun j => bins[j.val])
    ⟨k, inside⟩
  rw [inv_inv] at undone
  rw [undone, inv_mul_cancel_left₀ nonzero]

/-- The spectrum holds the discrete Fourier transform, as it is defined. -/
theorem getElem_spectrum_eq_dft {n : ℕ} {xs : Array (Complex K)} (size : xs.size = n) (k : ℕ)
    (inside : k < (spectrum xs).size) :
    (spectrum xs)[k] = ∑ j : Fin n, xs[j.val] * root K n ^ (-(j * k : ℤ)) := by
  rw [getElem_spectrum size k]
  refine Finset.sum_congr rfl fun j _ => ?_
  rw [zpow_neg, inv_pow, mul_comm, ← Nat.cast_mul, zpow_natCast]

end BufferScope.Spectrum
