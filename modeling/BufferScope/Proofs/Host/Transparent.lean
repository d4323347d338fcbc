/-
A run of the wavelet round trip, read exactly. `Host.run_transparent`: whatever the buffer size, every
output channel is the first input channel to within a billionth of its peak, with silence after its end.
-/
import BufferScope.Proofs.Effect.Wavelet
import BufferScope.Proofs.Host.Block
import BufferScope.Proofs.Host.Session

namespace BufferScope

open BufferEffect (call)
open Wavelet (peak)

/-- Lists that are joined of related parts are related. -/
theorem forall₂_flatMap {α β γ : Type} {R : β → γ → Prop} {f : α → List β} {g : α → List γ}
    {parts : List α} (related : ∀ part ∈ parts, List.Forall₂ R (f part) (g part)) :
    List.Forall₂ R (parts.flatMap f) (parts.flatMap g) := by
  induction parts with
  | nil => exact .nil
  | cons part rest ih =>
    rw [List.flatMap_cons, List.flatMap_cons]
    exact List.rel_append (related part List.mem_cons_self) (ih fun part later => related part (.tail _ later))

/-! ## Slices -/

section Slices

variable {K σ : Type} [Field K] [Sample K σ] [ExactSample K σ]

theorem getElem?_fitted_widen (channel : Array σ) (frames : ℕ) {n : ℕ} (inside : n < frames) :
    (fitted K channel frames)[n]?.map (Sample.widen : σ → K) =
    some ((channel[n]?.map (Sample.widen : σ → K)).getD 0) := by
  rw [getElem?_fitted, if_pos inside]
  cases channel[n]? with
  | none => exact congrArg some ExactSample.widen_silence
  | some s => rfl

variable [LinearOrder K] [IsStrictOrderedRing K]

/-- No buffer is louder than the channel it is cut from. -/
theorem peak_sliceOf_le (channel : Array σ) (offset length : ℕ) :
    peak ((sliceOf K channel offset length).map (Sample.widen : σ → K)) ≤
      peak (channel.map (Sample.widen : σ → K)) := by
  refine Wavelet.peak_le (Wavelet.peak_nonneg _) fun s member => ?_
  obtain ⟨sample, cut, rfl⟩ := Array.mem_map.mp member
  rcases mem_sliceOf cut with inside | rfl
  · obtain ⟨i, low, rfl⟩ := Array.getElem_of_mem inside
    have bound := Wavelet.abs_getElem_le_peak (channel.map (Sample.widen : σ → K)) i (by simpa using low)
    rwa [Array.getElem_map] at bound
  · rw [ExactSample.widen_silence, abs_zero]
    exact Wavelet.peak_nonneg _

end Slices

variable {K σ : Type} [Field K] [LinearOrder K] [IsStrictOrderedRing K] [Sample K σ] [ExactSample K σ]

/-! ## The calls of a run -/

namespace WaveletRoundTrip

/-- Every call of a run succeeds, and leaves in every output what it received in the first input
channel, nearly. -/
theorem left_near_received {e : WaveletRoundTrip K} (bank : e.bank = (exact K).bank) (settings : HostSettings)
    (positive : 0 < settings.bufferSize.toNat) (input : Array σ) (rest : List (Array σ)) (frames : ℕ)
    {c : Call (WaveletRoundTrip K) σ K}
    (made : c ∈ BufferEffect.calls e (settings.requests (input :: rest) frames)) :
    c.answer.result = .ok () ∧ c.answer.outputs.length = settings.outputChannels.toNat ∧
      ∀ k < settings.outputChannels.toNat,
        List.Forall₂ (Near (peak (input.map (Sample.widen : σ → K)) / 10 ^ 9)) (c.left k) (c.received 0) := by
  obtain ⟨handed, before, kept, same⟩ := BufferEffect.mem_calls_of_kept
    (fun e : WaveletRoundTrip K => e.bank = (exact K).bank)
    (fun e r kept => (config_call e r).1.trans kept) bank made
  obtain ⟨j, inRange, request⟩ := List.mem_map.mp handed
  -- a buffer of a run is never empty, so the effect has a channel to work on
  have reached : j * settings.bufferSize.toNat < frames := (lt_ceilDiv positive frames j).mp (List.mem_range.mp inRange)
  have nonempty : 0 < (sliceOf K input (j * settings.bufferSize.toNat)
      (min settings.bufferSize.toNat (frames - j * settings.bufferSize.toNat))).size := by
    rw [size_sliceOf]
    omega
  have inputs : c.request.inputs = _ :: _ := congrArg Request.inputs request.symm
  obtain ⟨result, -⟩ := call_near kept c.request inputs nonempty
  rw [← same] at result
  refine ⟨result, length_outputs keepsLengths settings e _ frames made, fun k inside => ?_⟩
  have output : c.request.outputs[k]? = some (Array.replicate
      (min settings.bufferSize.toNat (frames - j * settings.bufferSize.toNat)) (Sample.silence K)) := by
    rw [← request]
    exact (List.getElem?_replicate ..).trans (if_pos inside)
  have near := left_near kept c.request inputs nonempty output (by rw [size_sliceOf, Array.size_replicate])
  rw [← same] at near
  have received : c.received 0 = (sliceOf K input (j * settings.bufferSize.toNat)
      (min settings.bufferSize.toNat (frames - j * settings.bufferSize.toNat))).toList := by
    unfold Call.received
    rw [inputs]
    rfl
  rw [received]
  exact near.imp fun a b close => close.trans (by
    have := peak_sliceOf_le (K := K) input (j * settings.bufferSize.toNat)
      (min settings.bufferSize.toNat (frames - j * settings.bufferSize.toNat))
    gcongr)

end WaveletRoundTrip

/-! ## The whole run -/

section Whole

variable {φ : Type} [Screen φ] [BEq K] [RealNumber K]

theorem Host.run_unscoped_near (h : Host φ) {e : WaveletRoundTrip K} (bank : e.bank = (WaveletRoundTrip.exact K).bank)
    (input : Array σ) (rest : List (Array σ)) (frames : ℕ) :
    ∃ rendered, (h.unscoped.run e (input :: rest) frames).value.result = .ok rendered ∧
      rendered.length = h.settings.outputChannels.toNat ∧
      ∀ (k : ℕ) (out : Array σ), rendered[k]? = some out →
        List.Forall₂ (WaveletRoundTrip.Near (peak (input.map (Sample.widen : σ → K)) / 10 ^ 9)) out.toList
          (fitted K input frames) := by
  have each : ∀ c ∈ BufferEffect.calls e (h.settings.requests (input :: rest) frames), _ := fun c made =>
    WaveletRoundTrip.left_near_received bank h.settings h.hasFrames input rest frames made
  obtain ⟨result, -⟩ := h.unscoped.run_plain rfl e (input :: rest) frames fun c made => (each c made).1
  obtain ⟨length, joins⟩ := joined_silence fun c made => (each c made).2.1
  refine ⟨_, result, length, fun k out kth => ?_⟩
  obtain ⟨inside, left⟩ := joins k out kth
  rw [left, ← flatMap_received h.settings h.hasFrames e (input :: rest) frames (i := 0) rfl]
  exact forall₂_flatMap fun c made => (each c made).2.2 k inside

/-- The wavelet round trip, read exactly, is transparent. On every host, for every list of input
channels with a first one, every number of frames and every effect that calls and resets can make of a
new one, a run succeeds if the screen, where there is one, took every frame. Every output channel has
the asked frames, and each sample is that of the first input channel, or zero after its end, to within a
billionth of that channel's peak. -/
theorem Host.run_transparent (h : Host φ) {e : WaveletRoundTrip K}
    (reached : BufferEffect.Reachable (σ := σ) (WaveletRoundTrip.exact K) e) (input : Array σ)
    (rest : List (Array σ)) (frames : ℕ) (taken : ∀ b ∈ h.blits e (input :: rest) frames, b.answer = .ok ()) :
    ∃ rendered, (h.run e (input :: rest) frames).value.result = .ok rendered ∧
      rendered.length = h.settings.outputChannels.toNat ∧
      ∀ (k : ℕ) (out : Array σ), rendered[k]? = some out → out.size = frames ∧
        ∀ (n : ℕ) (sample : σ), out[n]? = some sample →
          |Sample.widen sample - (input[n]?.map (Sample.widen : σ → K)).getD 0| ≤
            peak (input.map (Sample.widen : σ → K)) / 10 ^ 9 := by
  have answered : ∀ t ∈ h.turns e (input :: rest) frames, ∀ b, t.blit = some b → b.answer = .ok () := by
    rw [(h.run_eq_watched e (input :: rest) frames).2] at taken
    exact fun t member b shown => taken b (List.mem_filterMap.mpr ⟨t, member, shown⟩)
  obtain ⟨rendered, result, length, near⟩ :=
    h.run_unscoped_near (WaveletRoundTrip.config_of_reachable reached).1 input rest frames
  rw [h.run_unscoped e (input :: rest) frames answered] at result
  refine ⟨rendered, result, length, fun k out kth => ?_⟩
  have close := near k out kth
  have size : out.size = frames := by
    rw [← Array.length_toList, close.length_eq, length_fitted]
  refine ⟨size, fun n sample nth => ?_⟩
  obtain ⟨inside, rfl⟩ := Array.getElem?_eq_some_iff.mp nth
  have source := getElem?_fitted_widen (K := K) input frames (n := n) (by omega)
  obtain ⟨original, there, widened⟩ := Option.map_eq_some_iff.mp source
  obtain ⟨low, rfl⟩ := List.getElem?_eq_some_iff.mp there
  rw [← widened]
  exact (List.forall₂_iff_get.mp close).2 n (by simpa using inside) low

end Whole

/-- An effect after a buffer of one sample. -/
def WaveletRoundTrip.used : WaveletRoundTrip ℚ := (call (exact ℚ) ⟨[#[7]], [#[0]], 48000⟩).answer.effect

/-- Seven frames of a channel of five samples, on a host with three frames a buffer: the last buffer has
one frame, which is silent. -/
theorem Host.run_transparent_short :
    BufferEffect.Reachable (WaveletRoundTrip.exact ℚ) WaveletRoundTrip.used ∧
    (∀ b ∈ smallHost.blits WaveletRoundTrip.used [#[1, -2, 5, 0, 3], #[]] 7, b.answer = .ok ()) ∧
    peak (#[1, -2, 5, 0, 3] : Array ℚ) = 5 ∧
    ∃ first second, (smallHost.run WaveletRoundTrip.used [#[1, -2, 5, 0, 3], #[]] 7).value.result =
      .ok [first, second] ∧
      first.size = 7 ∧ second.size = 7 ∧
      (∀ sample, second[4]? = some sample → |sample - 3| ≤ 5 / 10 ^ 9) ∧
      (∀ sample, second[6]? = some sample → |sample - 0| ≤ 5 / 10 ^ 9) := by
  have reached : BufferEffect.Reachable (WaveletRoundTrip.exact ℚ) WaveletRoundTrip.used := .call _ .start
  have taken : ∀ b ∈ smallHost.blits WaveletRoundTrip.used [#[1, -2, 5, 0, 3], #[]] 7, b.answer = .ok () :=
    Host.answer_of_mem_blits (fun _ _ => rfl) smallHost _ _ 7
  have loudest : peak (#[1, -2, 5, 0, 3] : Array ℚ) = 5 := by decide +kernel
  have identity : (#[1, -2, 5, 0, 3] : Array ℚ).map (Sample.widen : ℚ → ℚ) = #[1, -2, 5, 0, 3] :=
    Array.map_id _
  obtain ⟨rendered, result, length, near⟩ := smallHost.run_transparent reached #[1, -2, 5, 0, 3] [#[]] 7 taken
  rw [identity, loudest] at near
  obtain ⟨first, second, rfl⟩ := List.length_eq_two.mp length
  refine ⟨reached, taken, loudest, first, second, result, (near 0 first rfl).1, (near 1 second rfl).1, ?_, ?_⟩
  · exact (near 1 second rfl).2 4
  · exact (near 1 second rfl).2 6

end BufferScope
