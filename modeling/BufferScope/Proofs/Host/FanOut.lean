/-
One signal in all output channels. The built-in effects fan out (`BuiltInEffect.fansOut`), and so every run
of one of them leaves the same audio in each channel of the host.
-/
import BufferScope.Effect.Kind
import BufferScope.Proofs.Effect.Spectral
import BufferScope.Proofs.Effect.Tone
import BufferScope.Proofs.Effect.Wavelet
import BufferScope.Proofs.Host.Block

namespace BufferScope

open BufferEffect (call FansOut)

namespace BuiltInEffect

/-- An effect of the registry fans out because the effect inside does. -/
theorem fansOut_wrapped {ε : Type} [BufferEffect ε Float32 Float] (inside : FansOut ε) (wrap : ε → BuiltInEffect)
    {e : ε} {r : Request Float32 Float} (answer : (call (wrap e) r).answer =
      ⟨(call e r).answer.result, wrap (call e r).answer.effect, (call e r).answer.outputs⟩) :
    (∃ error, (call (wrap e) r).answer = .refused (wrap e) r.outputs error) ∨
      (call (wrap e) r).answer.result = .ok () ∧ ∃ signal : Array Float,
        (call (wrap e) r).answer.outputs = r.outputs.map fun channel => Audio.aligned signal channel.size := by
  rw [answer]
  obtain ⟨error, refused⟩ | ⟨result, signal, outputs⟩ := inside e r
  · rw [refused]
    exact .inl ⟨error, rfl⟩
  · exact .inr ⟨result, signal, outputs⟩

theorem fansOut : FansOut BuiltInEffect := by
  intro e r
  cases e with
  | spectral e => exact fansOut_wrapped SpectralRoundTrip.fansOut .spectral rfl
  | tone e => exact fansOut_wrapped Tone.fansOut .tone rfl
  | wavelet e => exact fansOut_wrapped WaveletRoundTrip.fansOut .wavelet rfl

end BuiltInEffect

variable {φ ε σ ρ : Type} [Screen φ] [BufferEffect ε σ ρ] [Sample ρ σ]
variable [Add ρ] [Sub ρ] [Mul ρ] [Div ρ] [Neg ρ] [Zero ρ] [One ρ] [NatCast ρ] [IntCast ρ]
  [LT ρ] [DecidableLT ρ] [BEq ρ] [RealNumber ρ]

/-- A run that goes through leaves the same audio in all channels. -/
theorem Host.alike_of_run_ok (fans : FansOut ε) {h : Host φ} {e : ε} {inputs : List (Array σ)} {frames : ℕ}
    {audio : List (Array σ)} (ran : (h.run e inputs frames).value.result = .ok audio) :
    ∀ out ∈ audio, ∀ other ∈ audio, out = other := by
  obtain ⟨processed, -⟩ := calls_of_run_ok ran
  obtain ⟨-, joins⟩ := audio_of_run_ok fans.keepsLengths ran
  -- all output channels of a request have one length, to which the one signal is aligned
  have alike : ∀ c ∈ BufferEffect.calls e (h.settings.requests inputs frames),
      ∀ k < h.settings.outputChannels.toNat,
      ∀ l < h.settings.outputChannels.toNat, c.left k = c.left l := by
    intro c made k below l below'
    have result := processed c made
    obtain ⟨handed, before, same⟩ := BufferEffect.mem_calls made
    obtain ⟨j, -, request⟩ := List.mem_map.mp handed
    rw [same] at result ⊢
    obtain ⟨error, refused⟩ | ⟨-, signal, outputs⟩ := fans before c.request
    · rw [refused] at result
      cases result
    · unfold Call.left
      rw [outputs, ← request]
      unfold HostSettings.request silentChannels
      simp only [List.map_replicate, List.getElem?_replicate, if_pos below, if_pos below']
  intro out member other member'
  obtain ⟨k, kth⟩ := List.getElem?_of_mem member
  obtain ⟨l, lth⟩ := List.getElem?_of_mem member'
  obtain ⟨below, -, left⟩ := joins k out kth
  obtain ⟨below', -, left'⟩ := joins l other lth
  apply Array.toList_inj.mp
  rw [left, left']
  exact List.flatMap_congr fun c made => alike c made k below l below'

end BufferScope
