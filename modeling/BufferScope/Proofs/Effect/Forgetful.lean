/-
What a call can depend on. The transforming effects read the first input channel and the lengths of the
outputs, and remember nothing of the calls before; the tone reads the sample rate and those lengths,
and goes on from its cursor and its envelope alone.
-/
import BufferScope.Proofs.Effect.Spectral
import BufferScope.Proofs.Effect.Tone
import BufferScope.Proofs.Effect.Wavelet

namespace BufferScope

open BufferEffect (call Reachable)

/-- Two calls that are refused alike, for what one check finds, or end alike after it. -/
theorem Processed.agree {ε σ α : Type} {check : Except AudioError α} {x y : Processed ε σ}
    {ends ends' : α → Prop} {e e' : ε} {outputs outputs' : List (Array σ)}
    (first : (∃ error, check = .error error ∧ x = .refused e outputs error) ∨ ∃ a, check = .ok a ∧ ends a)
    (second : (∃ error, check = .error error ∧ y = .refused e' outputs' error) ∨ ∃ a, check = .ok a ∧ ends' a)
    (same : ∀ a, ends a → ends' a → x = y) : x.result = y.result ∧ (x.result = .ok () → x = y) := by
  obtain ⟨_, found, rfl⟩ | ⟨_, found, ended⟩ := first
  · obtain ⟨_, found', rfl⟩ | ⟨_, found', -⟩ := second
    · cases found.symm.trans found'
      exact ⟨rfl, nofun⟩
    · cases found.symm.trans found'
  · obtain ⟨_, found', -⟩ | ⟨_, found', ended'⟩ := second
    · cases found.symm.trans found'
    · cases found.symm.trans found'
      have equal := same _ ended ended'
      exact ⟨congrArg result equal, fun _ => equal⟩

/-! ## Transforming effects -/

/-- Requests with the same first input channel and the same output lengths. The other inputs, the sample
rate and what the outputs hold may differ. -/
structure Request.Alike {σ ρ : Type} (r r' : Request σ ρ) : Prop where
  first : r.inputs.head? = r'.inputs.head?
  lengths : r.outputs.map Array.size = r'.outputs.map Array.size

/-- Effects that answer alike requests alike, whatever calls and resets were made before, and are the
same after them if they succeed. -/
def BufferEffect.Forgetful {ε σ ρ : Type} [BufferEffect ε σ ρ] (new : ε) : Prop :=
  ∀ (e e' : ε) (r r' : Request σ ρ), Reachable new e → Reachable new e' → r.Alike r' →
    (call e r).answer.result = (call e' r').answer.result ∧
      ((call e r).answer.result = .ok () → (call e r).answer = (call e' r').answer)

open BufferEffect (Forgetful)

section Transforming

variable {σ ρ : Type} [Add ρ] [Sub ρ] [Mul ρ] [Neg ρ] [Zero ρ] [One ρ] [NatCast ρ] [Sample ρ σ]

theorem SpectralRoundTrip.forgetful [Div ρ] [Circular ρ] :
    Forgetful (SpectralRoundTrip.new : Logged (SpectralRoundTrip ρ)).value := by
  intro e e' r r' _ _ alike
  have first := call_cases e r
  rw [Audio.acceptedInput_congr alike.first] at first
  refine Processed.agree first (call_cases e' r') fun input ended ended' => ?_
  rw [ended, ended', passed, passed, Audio.map_aligned_congr _ alike.lengths]

theorem WaveletRoundTrip.forgetful (bank : Wavelet.FilterBank ρ) : Forgetful (WaveletRoundTrip.new bank).value := by
  intro e e' r r' reached reached' alike
  have first := call_cases e r
  rw [Audio.acceptedInput_congr alike.first] at first
  -- neither the bank nor the mode has changed since the effect was new
  have config := config_of_reachable reached
  have config' := config_of_reachable reached'
  refine Processed.agree first (call_cases e' r') ?_
  rintro input ⟨_, split, ended⟩ ⟨_, split', ended'⟩
  rw [config.1, config.2] at split
  rw [config'.1, config'.2] at split'
  cases split.symm.trans split'
  rw [ended, ended', passed, passed, heard, heard, config.1, config.2, config'.1, config'.2,
    Audio.map_aligned_congr _ alike.lengths]

end Transforming

/-! ## The tone -/

namespace Tone

variable {σ ρ : Type} [Mul ρ] [Div ρ] [Neg ρ] [Zero ρ] [One ρ] [NatCast ρ] [LT ρ] [DecidableLT ρ]
  [RealNumber ρ] [Circular ρ] [Sample ρ σ]

/-- Neither the inputs nor the samples of the last buffer nor what the outputs hold matter to a call. -/
theorem call_congr {e e' : Tone ρ} {r r' : Request σ ρ} (params : e.params = e'.params)
    (cursor : e.cursor = e'.cursor) (envelope : e.envelope = e'.envelope) (rate : r.rate = r'.rate)
    (lengths : r.outputs.map Array.size = r'.outputs.map Array.size) :
    (call e r).answer.result = (call e' r').answer.result ∧
      ((call e r).answer.result = .ok () → (call e r).answer = (call e' r').answer) := by
  have asked : requested r.outputs r.rate = requested r'.outputs r'.rate := by
    rw [requested, requested, rate, Audio.firstOutputLength_congr lengths]
  have first := call_cases e r
  rw [asked] at first
  refine Processed.agree first (call_cases e' r') fun length ended ended' => ?_
  rw [ended, ended', played, played, advanced, advanced, params, cursor, envelope, rate,
    Audio.map_aligned_congr _ lengths]

end Tone

end BufferScope
