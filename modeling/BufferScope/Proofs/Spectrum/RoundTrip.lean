/-
The spectrum and back, over exact complex numbers. `Spectrum.roundTrip`: at every length, prime or
composite, the forward transform is the discrete Fourier transform, forward and inverse undo each other,
and the spectral round trip hands its input on to every output.
-/
import BufferScope.Proofs.Effect.Spectral
import BufferScope.Proofs.Host.Slices

namespace BufferScope

open BufferEffect (call)
open BufferScope.Complex (root ofReal)

variable {K σ : Type} [Field K] [LinearOrder K] [IsStrictOrderedRing K] [Circular K] [ExactCircle K] [Sample K σ]

namespace SpectralRoundTrip

/-- The way back from a spectrum is what the spectrum was made of. -/
theorem reconstruction_heard (input : Array σ) :
    (heard K input).reconstruction = input.map (Sample.widen : σ → K) := by
  unfold heard
  rw [Spectrum.signal_spectrum, Array.map_map]
  rfl

/-- A channel of finite samples goes through the effect to every output. -/
theorem call_of_finite [LosslessSample K σ] (e : SpectralRoundTrip K) (r : Request σ K) {channel : Array σ}
    {rest : List (Array σ)} (handed : r.inputs = channel :: rest) (nonempty : 0 < channel.size)
    (finite : ∀ s ∈ channel, Sample.isFinite K s = true) :
    (call e r).answer.result = .ok () ∧ (call e r).answer.outputs.map Array.toList =
      r.outputs.map fun output => fitted K channel output.size := by
  have accepted : Audio.acceptedInput K r.inputs = .ok channel := by
    rw [handed]
    exact Audio.acceptedInput_of_finite rest nonempty finite
  have restored : (channel.map (Sample.widen : σ → K)).map Sample.narrow = channel := by
    rw [Array.map_map]
    exact (Array.map_congr_left fun s member => LosslessSample.narrow_widen s (finite s member)).trans (Array.map_id _)
  obtain ⟨_, refused, -⟩ | ⟨_, same, ended⟩ := call_cases e r
  · cases accepted.symm.trans refused
  · cases accepted.symm.trans same
    rw [ended]
    refine ⟨rfl, ?_⟩
    unfold passed
    rw [reconstruction_heard, List.map_map]
    refine List.map_congr_left fun output _ => ?_
    rw [Function.comp_apply, Audio.toList_aligned, restored]

end SpectralRoundTrip

namespace Spectrum

/-- Both transforms over exact complex numbers, for signals of any positive length and a processor that
was used for any others before. With the first of the evenly spaced points of the circle, a primitive
root of one, bin `k` of a signal `x` is the sum of `x j * root ^ (-(j * k))`. The inverse transform of
those bins is the signal again, its imaginary parts zero. The inverse transform of any spectrum is the
sum with the opposite sign divided by the length, and has that spectrum for its bins. The spectral round
trip, in whatever state, leaves in every output its input channel, cut or followed by silence. -/
theorem roundTrip [LosslessSample K σ] (samples : Array σ) (nonempty : 0 < samples.size) :
    IsPrimitiveRoot (root K samples.size) samples.size ∧
    (∀ p : Processor, ∃ bins : Array (Complex K), (p.forward samples).value.1 = .ok bins ∧
      bins.size = samples.size ∧
      (∀ k (inside : k < bins.size), bins[k] =
        ∑ j : Fin samples.size, ofReal (Sample.widen samples[j]) * root K samples.size ^ (-(j * k : ℤ))) ∧
      ∀ later : Processor, (later.inverse bins).value.1 = .ok (samples.map fun s => ofReal (Sample.widen s))) ∧
    (∀ (p : Processor) (bins : Array (Complex K)), 0 < bins.size →
      ∃ signal : Array (Complex K), (p.inverse bins).value.1 = .ok signal ∧ signal.size = bins.size ∧
        (∀ l (inside : l < signal.size), signal[l] =
          (∑ k : Fin bins.size, bins[k] * root K bins.size ^ (k * l : ℤ)) / bins.size) ∧
        ∀ k (inside : k < bins.size), ∑ j : Fin signal.size,
          signal[j] * root K signal.size ^ (-(j * k : ℤ)) = bins[k]) ∧
    (∀ (e : SpectralRoundTrip K) (r : Request σ K) (rest : List (Array σ)), r.inputs = samples :: rest →
      (∀ s ∈ samples, Sample.isFinite K s = true) →
      (call e r).answer.result = .ok () ∧ (call e r).answer.outputs.length = r.outputs.length ∧
      ∀ (k : ℕ) (before after : Array σ), r.outputs[k]? = some before →
        (call e r).answer.outputs[k]? = some after →
        after.toList = samples.toList.take (min before.size samples.size) ++
          List.replicate (before.size - min before.size samples.size) (Sample.silence K)) := by
  refine ⟨Complex.isPrimitiveRoot_root nonempty, fun p => ?_, fun p bins positive => ?_,
    fun e r rest handed finite => ?_⟩
  · refine ⟨_, congrArg Prod.fst (p.value_forward nonempty), by simp, fun k inside => ?_, fun later => ?_⟩
    · rw [getElem_spectrum_eq_dft (Array.size_map ..) k]
      simp only [Array.getElem_map]
      rfl
    · rw [later.value_inverse (by simpa using nonempty), signal_spectrum]
  · refine ⟨_, congrArg Prod.fst (p.value_inverse positive), size_signal bins, fun l inside => ?_,
      fun k inside => ?_⟩
    · rw [getElem_signal rfl l, inv_mul_eq_div]
      refine congrArg (· / _) (Finset.sum_congr rfl fun k _ => ?_)
      rw [mul_comm, ← Nat.cast_mul, zpow_natCast]
      rfl
    · have transformed := getElem_spectrum_eq_dft (rfl : (signal bins).size = _) k (by simpa using inside)
      simp only [spectrum_signal] at transformed
      exact transformed.symm
  · obtain ⟨result, outputs⟩ := SpectralRoundTrip.call_of_finite e r handed nonempty finite
    refine ⟨result, by simpa using congrArg List.length outputs, fun k before after here there => ?_⟩
    have kth := congrArg (fun channels => channels[k]?) outputs
    simp only [List.getElem?_map, here, there, Option.map_some, Option.some_inj] at kth
    rw [kth, fitted, List.take_eq_take_min, Array.length_toList]
    congr 2
    omega

/-- Three real samples, after four on the same processor and in the same effect, for one output that is
shorter than they are and one that is longer. -/
theorem roundTrip_three :
    0 < (#[1, -2, 5] : Array ℝ).size ∧ IsPrimitiveRoot (root ℝ 3) 3 ∧
    (∃ bins : Array (Complex ℝ), ((⟨4⟩ : Processor).forward (#[1, -2, 5] : Array ℝ)).value.1 = .ok bins ∧
      bins.size = 3 ∧ ((⟨4⟩ : Processor).inverse bins).value.1 = .ok #[⟨1, 0⟩, ⟨-2, 0⟩, ⟨5, 0⟩]) ∧
    ∃ first second, (call (SpectralRoundTrip.heard ℝ #[1, 2, 3, 4])
        ⟨[#[1, -2, 5], #[7]], [#[9, 9], #[9, 9, 9, 9, 9]], 0⟩).answer.outputs = [first, second] ∧
      first.toList = [1, -2] ∧ second.toList = [1, -2, 5, 0, 0] := by
  have nonempty : 0 < (#[1, -2, 5] : Array ℝ).size := by decide
  obtain ⟨primitive, forward, -, effect⟩ := roundTrip (K := ℝ) #[1, -2, 5] nonempty
  obtain ⟨bins, result, size, -, inverse⟩ := forward ⟨4⟩
  obtain ⟨-, length, outputs⟩ := effect (SpectralRoundTrip.heard ℝ #[1, 2, 3, 4])
    ⟨[#[1, -2, 5], #[7]], [#[9, 9], #[9, 9, 9, 9, 9]], 0⟩ [#[7]] rfl fun _ _ => rfl
  obtain ⟨first, second, left⟩ := List.length_eq_two.mp length
  have real : (#[1, -2, 5] : Array ℝ).map (fun s => (ofReal (Sample.widen s) : Complex ℝ)) =
      #[⟨1, 0⟩, ⟨-2, 0⟩, ⟨5, 0⟩] := by
    simp [ofReal, Sample.widen]
  refine ⟨nonempty, primitive, ⟨bins, result, size, (inverse ⟨4⟩).trans (congrArg _ real)⟩,
    first, second, left, ?_, ?_⟩
  · exact outputs 0 #[9, 9] first rfl (by rw [left]; rfl)
  · exact outputs 1 #[9, 9, 9, 9, 9] second rfl (by rw [left]; rfl)

end Spectrum

end BufferScope
