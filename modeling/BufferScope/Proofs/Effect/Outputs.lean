/-
What a call that succeeds leaves in the outputs. In every state that calls and resets lead to, each of the three effects
carries one signal to all output channels: a channel keeps its length and holds the signal from its first sample on, cut
at the end of the channel or followed by silence, whatever it held before.
-/
import BufferScope.Proofs.Effect.Forgetful
import BufferScope.Proofs.Effect.Past

namespace BufferScope

open BufferEffect (call Reachable)

namespace Audio

variable {σ ρ : Type} [Sample ρ σ]

/-- A channel at any of its places: the signal, or silence past the end of it. -/
theorem getElem_aligned (signal : Array ρ) {length k : ℕ} (inside : k < (aligned signal length : Array σ).size) :
    (aligned signal length : Array σ)[k] =
      if reached : k < signal.size then Sample.narrow signal[k] else Sample.silence ρ :=
  Array.getElem_ofFn ..

end Audio

/-- A call that carried a signal to its outputs. Each channel has the length it had, and holds the signal, rounded to
samples, as far as both go, and then silence. So two channels agree at every place that both have, and are the same if
they have the same length. -/
structure Call.Carries {ε σ ρ : Type} [Sample ρ σ] (c : Call ε σ ρ) (signal : Array ρ) : Prop where
  lengths : c.answer.outputs.map Array.size = c.request.outputs.map Array.size
  samples : ∀ channel ∈ c.answer.outputs, ∀ k (inside : k < channel.size),
    channel[k] = if reached : k < signal.size then Sample.narrow signal[k] else Sample.silence ρ
  agree : ∀ channel ∈ c.answer.outputs, ∀ other ∈ c.answer.outputs,
    ∀ k, k < channel.size → k < other.size → channel[k]? = other[k]?
  identical : ∀ channel ∈ c.answer.outputs, ∀ other ∈ c.answer.outputs,
    channel.size = other.size → channel = other

/-- Every channel gets the signal on its own, so what holds of one channel and the signal holds of two channels. -/
theorem Call.carries_of_aligned {ε σ ρ : Type} [Sample ρ σ] {c : Call ε σ ρ} {signal : Array ρ}
    (outputs : c.answer.outputs = c.request.outputs.map fun channel => Audio.aligned signal channel.size) :
    c.Carries signal := by
  have samples : ∀ channel ∈ c.answer.outputs, ∀ k (inside : k < channel.size),
      channel[k] = if reached : k < signal.size then Sample.narrow signal[k] else Sample.silence ρ := by
    intro channel member k inside
    rw [outputs] at member
    obtain ⟨before, -, rfl⟩ := List.mem_map.mp member
    exact Audio.getElem_aligned signal inside
  have agree : ∀ channel ∈ c.answer.outputs, ∀ other ∈ c.answer.outputs,
      ∀ k, k < channel.size → k < other.size → channel[k]? = other[k]? := by
    intro channel member other member' k inside inside'
    rw [Array.getElem?_eq_getElem inside, Array.getElem?_eq_getElem inside', samples channel member k inside,
      samples other member' k inside']
  refine ⟨?_, samples, agree, fun channel member other member' same => Array.ext_getElem? fun k => ?_⟩
  · rw [outputs]
    simp [Function.comp_def]
  · by_cases inside : k < channel.size
    · exact agree channel member other member' k inside (same ▸ inside)
    · rw [Array.getElem?_eq_none (by omega), Array.getElem?_eq_none (by omega)]

namespace BufferEffect

variable {ε σ ρ : Type} [BufferEffect ε σ ρ] [Sample ρ σ]

/-- Effects that carry a signal of their own to all outputs, in every call that succeeds after any calls and resets of a
new effect. The call tells how long the signal is, and nothing depends on what the outputs held. -/
def CarriesSignal (new : ε) (signal : ε → Array ρ) (length : Request σ ρ → ℕ) : Prop :=
  ∀ (e : ε) (r : Request σ ρ), Reachable new e → (call e r).answer.result = .ok () →
    (call e r).Carries (signal (call e r).answer.effect) ∧ (signal (call e r).answer.effect).size = length r ∧
    ∀ outputs : List (Array σ), outputs.map Array.size = r.outputs.map Array.size →
      (call e { r with outputs }).answer = (call e r).answer

end BufferEffect

open BufferEffect (CarriesSignal)

/-- The frames that a request asks for: the length of the first output channel. -/
def Request.frames {σ ρ : Type} (r : Request σ ρ) : ℕ := (r.outputs.head?.map Array.size).getD 0

section Transforming

variable {σ ρ : Type} [Add ρ] [Sub ρ] [Mul ρ] [Neg ρ] [Zero ρ] [One ρ] [NatCast ρ] [Sample ρ σ]

theorem SpectralRoundTrip.carriesSignal [Div ρ] [Circular ρ] :
    CarriesSignal (new : Logged (SpectralRoundTrip ρ)).value reconstruction Request.heard := by
  intro e r reached ok
  refine ⟨?_, ?_, fun outputs same => ?_⟩
  · obtain ⟨_, -, ended⟩ | ⟨input, -, ended⟩ := call_cases e r
    · rw [ended] at ok
      cases ok
    · refine Call.carries_of_aligned ?_
      rw [ended]
      rfl
  · obtain ⟨_, -, ended⟩ | ⟨input, accepted, ended⟩ := call_cases e r
    · rw [ended] at ok
      cases ok
    · rw [ended, (Request.heard_of_accepted accepted).1]
      simp [passed, heard]
  · exact ((forgetful e e r { r with outputs } reached reached ⟨rfl, same.symm⟩).2 ok).symm

/-- With an even number of taps, an odd number of samples comes back with one more. -/
theorem WaveletRoundTrip.carriesSignal (bank : Wavelet.FilterBank ρ) (even : Even bank.taps) :
    CarriesSignal (new bank).value reconstruction fun r : Request σ ρ =>
      if Even r.heard then r.heard else r.heard + 1 := by
  intro e r reached ok
  have sameBank : e.bank = bank := (config_of_reachable reached).1
  refine ⟨?_, ?_, fun outputs same => ?_⟩
  · obtain ⟨_, -, ended⟩ | ⟨_, -, _, -, ended⟩ := call_cases e r
    · rw [ended] at ok
      cases ok
    · refine Call.carries_of_aligned ?_
      rw [ended]
      rfl
  · obtain ⟨_, -, ended⟩ | ⟨input, accepted, bands, split, ended⟩ := call_cases e r
    · rw [ended] at ok
      cases ok
    · obtain ⟨size, nonempty⟩ := Request.heard_of_accepted accepted
      have filled : 0 < (input.map (Sample.widen : σ → ρ)).size := by simpa using nonempty
      obtain ⟨_, split', approx, detail, overlap⟩ := Wavelet.exists_bands e.bank e.mode filled
      cases split.symm.trans split'
      have rebuilt := Wavelet.Workspace.size_rebuilt e.bank bands (approx.trans detail.symm) overlap
      rw [approx, Array.size_map, ← size, sameBank,
        Wavelet.reconstructionLength_coefficientCount even (size ▸ nonempty), ← sameBank] at rebuilt
      rw [ended]
      exact rebuilt
  · exact ((forgetful bank e e r { r with outputs } reached reached ⟨rfl, same.symm⟩).2 ok).symm

end Transforming

theorem Tone.carriesSignal {σ ρ : Type} [Mul ρ] [Div ρ] [Neg ρ] [Zero ρ] [One ρ] [NatCast ρ]
    [LT ρ] [DecidableLT ρ] [RealNumber ρ] [Circular ρ] [Sample ρ σ] (params : ToneParams ρ) :
    CarriesSignal (atStart params) samples Request.frames := by
  intro e r _ ok
  have answer := call_of_succeeded (e := e) (r := r) (by rw [Call.succeeded, ok]; rfl)
  refine ⟨?_, ?_, fun outputs same => ?_⟩
  · refine Call.carries_of_aligned ?_
    rw [answer]
    rfl
  · rw [answer]
    exact Array.size_ofFn
  · have alike : (call e r).answer = (call e { r with outputs }).answer := by
      refine (call_congr ?_ ?_ ?_ ?_ same.symm).2 ok <;> rfl
    exact alike.symm

variable {σ ρ : Type} [Add ρ] [Sub ρ] [Mul ρ] [Div ρ] [Neg ρ] [Zero ρ] [One ρ] [NatCast ρ]
  [LT ρ] [DecidableLT ρ] [RealNumber ρ] [Circular ρ] [Sample ρ σ]

/-- Every call that succeeds carries one signal to all outputs, in every state of each effect: the spectral round trip
its reconstruction, which has the length of the input; the wavelet round trip its reconstruction, of that length rounded
up to an even number; and the tone its samples, as many as the first output has places. -/
theorem effects_carry :
    CarriesSignal (SpectralRoundTrip.new : Logged (SpectralRoundTrip ρ)).value SpectralRoundTrip.reconstruction
      Request.heard ∧
    (∀ bank : Wavelet.FilterBank ρ, Even bank.taps →
      CarriesSignal (WaveletRoundTrip.new bank).value WaveletRoundTrip.reconstruction
        fun r : Request σ ρ => if Even r.heard then r.heard else r.heard + 1) ∧
    ∀ params : ToneParams ρ, CarriesSignal (Tone.new params).value Tone.samples Request.frames :=
  ⟨SpectralRoundTrip.carriesSignal, WaveletRoundTrip.carriesSignal, Tone.carriesSignal⟩

/-- Three samples through the wavelet round trip after a reset, to channels of two, five and two places that held
something else: four samples come back, so the last place of the second channel is silent. -/
theorem effects_carry_ragged :
    Even Wavelet.db2.taps ∧
    ∃ (after : WaveletRoundTrip Float) (short long other : Array Float32),
      (call (BufferEffect.reset (WaveletRoundTrip.new Wavelet.db2 : Logged (WaveletRoundTrip Float)).value)
        ⟨[#[1, 2, 3]], [#[9, 9], #[9, 9, 9, 9, 9], #[8, 7]], 48000⟩).answer =
          ⟨.ok (), after, [short, long, other]⟩ ∧
      after.reconstruction.size = 4 ∧ short.size = 2 ∧ long.size = 5 ∧ long[4]? = some 0 ∧
      long[1]? = short[1]? ∧ short = other := by
  obtain ⟨-, wavelet, -⟩ := effects_carry (ρ := Float) (σ := Float32)
  have even : Even Wavelet.db2.taps := by decide
  let r : Request Float32 Float := ⟨[#[1, 2, 3]], [#[9, 9], #[9, 9, 9, 9, 9], #[8, 7]], 48000⟩
  let e : WaveletRoundTrip Float := BufferEffect.reset (WaveletRoundTrip.new Wavelet.db2).value
  have accepted : Audio.acceptedInput Float r.inputs = .ok (#[1, 2, 3] : Array Float32) :=
    Audio.acceptedInput_of_finite _ (by decide) (by decide +kernel)
  have answer : ∃ after, ∃ signal : Array Float, (call e r).answer =
      ⟨.ok (), after, [Audio.aligned signal 2, Audio.aligned signal 5, Audio.aligned signal 2]⟩ := by
    obtain ⟨_, refused, -⟩ | ⟨_, -, _, -, ended⟩ := WaveletRoundTrip.call_cases e r
    · cases accepted.symm.trans refused
    · exact ⟨_, _, ended⟩
  obtain ⟨after, signal, answer⟩ := answer
  obtain ⟨carries, size, -⟩ := wavelet Wavelet.db2 even e r (.reset .start) (by rw [answer])
  have outputs : (call e r).answer.outputs =
      [Audio.aligned signal 2, Audio.aligned signal 5, Audio.aligned signal 2] := by rw [answer]
  have effect : (call e r).answer.effect = after := by rw [answer]
  rw [effect] at size carries
  have four : after.reconstruction.size = 4 := size.trans (show (if Even 3 then 3 else 3 + 1) = 4 by decide)
  have first : Audio.aligned signal 2 ∈ (call e r).answer.outputs := by simp [outputs]
  have second : Audio.aligned signal 5 ∈ (call e r).answer.outputs := by simp [outputs]
  refine ⟨even, after, _, _, _, answer, four, by simp, by simp, ?_, ?_, rfl⟩
  · rw [Array.getElem?_eq_getElem (by simp), carries.samples _ second 4 (by simp), dif_neg (by omega)]
    rfl
  · exact carries.agree _ second _ first 1 (by simp) (by simp)

end BufferScope
