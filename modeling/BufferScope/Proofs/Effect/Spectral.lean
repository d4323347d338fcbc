/-
One call on the spectral round trip, whatever the numbers: it is refused for a fault of its input, or
leaves the spectrum of the first channel and its way back, of which nothing depends on the calls before.
-/
import BufferScope.Effect.Spectral
import BufferScope.Proofs.Audio.Buffer
import BufferScope.Proofs.Effect.History
import BufferScope.Proofs.Spectrum.Processor

namespace BufferScope.SpectralRoundTrip

open BufferEffect (call)

variable {σ ρ : Type} [Add ρ] [Sub ρ] [Mul ρ] [Div ρ] [Neg ρ] [Zero ρ] [One ρ] [NatCast ρ]
  [Circular ρ] [Sample ρ σ]

/-- The effect after a buffer. -/
def heard (ρ : Type) [Add ρ] [Sub ρ] [Mul ρ] [Div ρ] [Neg ρ] [Zero ρ] [One ρ] [NatCast ρ]
    [Circular ρ] [Sample ρ σ] (input : Array σ) : SpectralRoundTrip ρ where
  processor := ⟨input.size⟩
  spectrum := Spectrum.spectrum (input.map fun s => Complex.ofReal (Sample.widen s))
  restored := Spectrum.signal (Spectrum.spectrum (input.map fun s => Complex.ofReal (Sample.widen s)))
  realParts := (Spectrum.spectrum (input.map fun s => Complex.ofReal (Sample.widen s : ρ))).map (·.re)
  imaginaryParts := (Spectrum.spectrum (input.map fun s => Complex.ofReal (Sample.widen s : ρ))).map (·.im)
  reconstruction :=
    (Spectrum.signal (Spectrum.spectrum (input.map fun s => Complex.ofReal (Sample.widen s : ρ)))).map (·.re)

/-- What an accepted call leaves. -/
def passed (r : Request σ ρ) (input : Array σ) : Processed (SpectralRoundTrip ρ) σ :=
  ⟨.ok (), heard ρ input, r.outputs.map fun channel => Audio.aligned (heard ρ input).reconstruction channel.size⟩

/-- A call refuses its input and touches nothing, or passes the input on. -/
theorem call_cases (e : SpectralRoundTrip ρ) (r : Request σ ρ) :
    (∃ error, Audio.acceptedInput ρ r.inputs = .error error ∧ (call e r).answer = .refused e r.outputs error) ∨
    ∃ input, Audio.acceptedInput ρ r.inputs = .ok input ∧ (call e r).answer = passed r input := by
  show (∃ error, _ ∧ (process e r.inputs r.outputs r.rate).value = _) ∨
    ∃ input, _ ∧ (process e r.inputs r.outputs r.rate).value = _
  unfold process
  obtain ⟨error, -, refused⟩ | ⟨input, rest, -, nonempty, -, accepted⟩ :=
    Audio.acceptedInput_cases (ρ := ρ) r.inputs
  · rw [refused]
    exact .inl ⟨error, rfl, rfl⟩
  · have bins : 0 < (Spectrum.spectrum (input.map fun s => Complex.ofReal (Sample.widen s : ρ))).size := by
      simpa using nonempty
    refine .inr ⟨input, accepted, ?_⟩
    rw [accepted]
    simp only [Logged.value_bind, Spectrum.Processor.value_forward (ρ := ρ) e.processor nonempty,
      Spectrum.Processor.value_inverse _ bins]
    unfold passed
    rw [← Audio.value_fanOut, heard]
    simp

theorem fansOut : BufferEffect.FansOut (SpectralRoundTrip ρ) := by
  intro e r
  obtain ⟨error, -, ended⟩ | ⟨_, -, ended⟩ := call_cases e r
  · exact .inl ⟨error, ended⟩
  · rw [ended]
    exact .inr ⟨rfl, _, rfl⟩

theorem keepsLengths : BufferEffect.KeepsLengths (SpectralRoundTrip ρ) := fansOut.keepsLengths

end BufferScope.SpectralRoundTrip
