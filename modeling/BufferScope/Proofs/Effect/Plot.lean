/-
What the effects have to show. In every state that calls, failed ones among them, and resets lead to,
there is a plot if a call has succeeded since the last reset. It spans the samples of the last such call,
and the buffers behind it are in step.
-/
import BufferScope.Proofs.Effect.Past
import BufferScope.Proofs.Wavelet.Transform

namespace BufferScope

open BufferEffect (past)

namespace Plot

variable {ρ : Type} [Zero ρ] [One ρ] [Neg ρ] [NatCast ρ]

/-- A plot from `0` to `n` and from `-1` to `1` of series with `n` values each, of which there is one or
more. -/
structure Spans (p : Plot ρ) (labels : List String) (n : ℕ) : Prop where
  nonempty : 1 ≤ n
  xRange : p.xRange = ⟨0, n⟩
  yRange : p.yRange = ⟨-1, 1⟩
  labels : p.series.map Series.label = labels
  sizes : ∀ s ∈ p.series, s.values.size = n

theorem Spans.one {n : ℕ} (nonempty : 1 ≤ n) (label : String) {values : Array ρ} (size : values.size = n) :
    ((spanning (n : ρ)).withSeries label values).Spans [label] n := by
  refine ⟨nonempty, rfl, rfl, rfl, fun s member => ?_⟩
  rw [List.mem_singleton.mp member]
  exact size

theorem Spans.two {n : ℕ} (nonempty : 1 ≤ n) (lower upper : String) {values others : Array ρ}
    (size : values.size = n) (size' : others.size = n) :
    (((spanning (n : ρ)).withSeries lower values).withSeries upper others).Spans [lower, upper] n := by
  refine ⟨nonempty, rfl, rfl, rfl, fun s member => ?_⟩
  obtain rfl | member := List.mem_cons.mp member
  · exact size
  · rw [List.mem_singleton.mp member]
    exact size'

end Plot

/-! ## What each effect shows -/

section Transforming

variable {σ ρ : Type} [Add ρ] [Sub ρ] [Mul ρ] [Neg ρ] [Zero ρ] [One ρ] [NatCast ρ] [Sample ρ σ]

/-- A plot of the spectrum of `n` samples. The buffers have this length too. -/
structure SpectralRoundTrip.Shows [Div ρ] [Circular ρ] (e : SpectralRoundTrip ρ) (n : ℕ) : Prop where
  plot : ∃ shown, e.plot = some shown ∧ shown.Spans ["f.real", "f.imag"] n
  spectrum : e.spectrum.size = n
  reconstruction : e.reconstruction.size = n

theorem SpectralRoundTrip.shows_heard [Div ρ] [Circular ρ] {input : Array σ} (nonempty : 0 < input.size) :
    (heard ρ input).Shows input.size := by
  have spectrum : (heard ρ input).spectrum.size = input.size := by simp [heard]
  have reconstruction : (heard ρ input).reconstruction.size = input.size := by simp [heard]
  have filled : ¬(heard ρ input).spectrum.isEmpty := by
    rw [Array.isEmpty_iff_size_eq_zero, spectrum]
    exact nonempty.ne'
  refine ⟨?_, spectrum, reconstruction⟩
  unfold plot
  rw [if_neg filled, spectrum]
  exact ⟨_, rfl, .two nonempty _ _ (Array.size_map.trans spectrum) (Array.size_map.trans spectrum)⟩

/-- A plot of the bands of `samples` samples, which have `n` coefficients each, by a bank of four taps.
The reconstruction makes up a sample when the number of them is odd. -/
structure WaveletRoundTrip.Shows (e : WaveletRoundTrip ρ) (samples n : ℕ) : Prop where
  plot : ∃ shown, e.plot = some shown ∧ shown.Spans ["cA", "cD"] n
  approx : e.approx.size = n
  detail : e.detail.size = n
  reconstruction : e.reconstruction.size = 2 * n - 2
  whole : 2 * n - 2 = if Even samples then samples else samples + 1

theorem WaveletRoundTrip.shows_heard {e : WaveletRoundTrip ρ} (taps : e.bank.taps = 4) {input : Array σ}
    (nonempty : 0 < input.size) {bands : Wavelet.Bands ρ}
    (split : Wavelet.decompose e.bank e.mode (input.map (Sample.widen : σ → ρ)) = .ok bands) :
    (e.heard input bands).Shows input.size ((input.size + 3) / 2) := by
  have joined := Wavelet.Workspace.reconstruct_of_decompose (taps ▸ by decide) (taps ▸ by decide)
      (by simpa using nonempty) split
  obtain ⟨approx, detail, back⟩ := Wavelet.sizes_of_roundTrip (by simpa using nonempty) split joined
  rw [taps, Array.size_map] at approx detail back
  refine ⟨?_, approx, detail, ?_, ?_⟩
  · have filled : ¬bands.approx.isEmpty := by
      rw [Array.isEmpty_iff_size_eq_zero, approx, Wavelet.coefficientCount]
      omega
    unfold plot heard
    rw [if_neg filled, approx]
    have positive : 1 ≤ Wavelet.coefficientCount input.size 4 := by
      unfold Wavelet.coefficientCount
      omega
    exact ⟨_, rfl, .two positive _ _ approx detail⟩
  · exact back
  · exact Wavelet.reconstructionLength_coefficientCount (show Even 4 by decide) nonempty

end Transforming

/-- A plot of `n` samples, if there are any. -/
def Tone.Shows {ρ : Type} [Neg ρ] [Zero ρ] [One ρ] [NatCast ρ] (e : Tone ρ) (n : ℕ) : Prop :=
  if n = 0 then e.plot = none else ∃ shown, e.plot = some shown ∧ shown.Spans ["y"] n

theorem Tone.shows_samples {ρ : Type} [Neg ρ] [Zero ρ] [One ρ] [NatCast ρ] (e : Tone ρ) :
    e.Shows e.samples.size := by
  unfold Shows plot
  split
  · rename_i empty
    rw [if_pos (Array.isEmpty_iff_size_eq_zero.mpr empty)]
  · rename_i filled
    rw [if_neg (by rwa [Array.isEmpty_iff_size_eq_zero])]
    exact ⟨_, rfl, .one (Nat.one_le_iff_ne_zero.mpr filled) "y" rfl⟩

/-! ## Every reachable state -/

variable {σ ρ : Type} [Add ρ] [Sub ρ] [Mul ρ] [Div ρ] [Neg ρ] [Zero ρ] [One ρ] [NatCast ρ]
  [LT ρ] [DecidableLT ρ] [RealNumber ρ] [Circular ρ] [Sample ρ σ]

/-- After every history of calls, failed ones among them, and resets, there is no plot if no call has
succeeded since the last reset. Otherwise the effect shows the last call that did: the spectrum of its
input, the bands of its input, or the samples that it asked for, of which there can be none. -/
theorem plots_span (history : List (Use σ ρ)) :
    (let p := past (SpectralRoundTrip.new : Logged (SpectralRoundTrip ρ)).value history
     match p.standing with
     | none => p.effect.plot = none
     | some c => p.effect.Shows c.request.heard) ∧
    (∀ (name : String) (scaling : Vector ρ 4),
      let p := past (WaveletRoundTrip.new (.ofScaling name scaling)).value history
      match p.standing with
      | none => p.effect.plot = none
      | some c => p.effect.Shows c.request.heard ((c.request.heard + 3) / 2)) ∧
    ∀ params : ToneParams ρ,
      let p := past (Tone.new params).value history
      match p.standing with
      | none => p.effect.plot = none
      | some c => p.effect.Shows c.frames := by
  refine ⟨?_, fun name scaling => ?_, fun params => ?_⟩
  · dsimp only
    obtain ⟨none, effect⟩ | ⟨c, input, standing, accepted, effect⟩ :=
      (SpectralRoundTrip.remembers (ρ := ρ) history).buffers
    · rw [none]
      show SpectralRoundTrip.plot _ = _
      rw [effect]
      rfl
    · rw [standing]
      show SpectralRoundTrip.Shows _ _
      obtain ⟨heard, positive⟩ := Request.heard_of_accepted accepted
      rw [effect, heard]
      exact SpectralRoundTrip.shows_heard positive
  · dsimp only
    obtain ⟨none, effect⟩ | ⟨c, input, bands, standing, accepted, split, effect⟩ :=
      (WaveletRoundTrip.remembers (.ofScaling name scaling) history).buffers
    · rw [none]
      show WaveletRoundTrip.plot _ = _
      rw [effect]
      rfl
    · rw [standing]
      show WaveletRoundTrip.Shows _ _ _
      obtain ⟨heard, positive⟩ := Request.heard_of_accepted accepted
      rw [effect, heard]
      exact WaveletRoundTrip.shows_heard rfl positive split
  · have kept : Tone.Remembers params (past (Tone.new params).value history) := Tone.remembers params history
    dsimp only
    obtain ⟨none, samples⟩ | ⟨c, standing, samples⟩ := kept.buffers
    · rw [none]
      show Tone.plot _ = _
      rw [Tone.plot, samples]
      rfl
    · rw [standing]
      show Tone.Shows _ _
      rw [← samples]
      exact Tone.shows_samples _

end BufferScope
