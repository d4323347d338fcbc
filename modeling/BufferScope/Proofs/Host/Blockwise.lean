/-
The audio of a run, block by block. `effects_forget`: a call on one of the effects depends on little of
what it is handed and on less of what was before it, so that every block of a run of the spectral or the
wavelet round trip is what a new effect makes of the same block of the input alone.
-/
import BufferScope.Proofs.Effect.Forgetful
import BufferScope.Proofs.Host.Block
import BufferScope.Proofs.Host.Transparent

namespace BufferScope

open BufferEffect (call Reachable Forgetful KeepsLengths)

/-! ## Blocks -/

/-- Block `j` of a channel. -/
def HostSettings.block {σ : Type} (s : HostSettings) (channel : Array σ) (j : ℕ) : List σ :=
  (channel.toList.drop (j * s.bufferSize.toNat)).take s.bufferSize.toNat

section Blocks

variable {σ ρ : Type} [Sample ρ σ]

theorem HostSettings.getElem?_block (s : HostSettings) (channel : Array σ) (j : ℕ) {i : ℕ}
    (inside : i < s.bufferSize.toNat) : (s.block channel j)[i]? = channel[j * s.bufferSize.toNat + i]? := by
  unfold block
  rw [List.getElem?_take, if_pos inside, List.getElem?_drop, Array.getElem?_toList]

/-- Channels that agree at the samples of a block agree in the block. -/
theorem HostSettings.block_congr (s : HostSettings) {channel other : Array σ} {j : ℕ}
    (same : ∀ n, n / s.bufferSize.toNat = j → channel[n]? = other[n]?) : s.block channel j = s.block other j := by
  apply List.ext_getElem?
  intro i
  by_cases inside : i < s.bufferSize.toNat
  · rw [s.getElem?_block channel j inside, s.getElem?_block other j inside]
    refine same _ ?_
    rw [Nat.mul_comm, Nat.mul_add_div (by omega), Nat.div_eq_of_lt inside, Nat.add_zero]
  · have length : ∀ channel : Array σ, (s.block channel j).length ≤ s.bufferSize.toNat :=
      fun _ => List.length_take_le ..
    rw [List.getElem?_eq_none ((length _).trans (Nat.le_of_not_lt inside)),
      List.getElem?_eq_none ((length _).trans (Nat.le_of_not_lt inside))]

/-- What is cut out of a channel for a buffer depends on that block alone. -/
theorem sliceOf_congr_block (s : HostSettings) {channel other : Array σ} {j : ℕ}
    (same : s.block channel j = s.block other j) (frames : ℕ) :
    sliceOf ρ channel (j * s.bufferSize.toNat) (min s.bufferSize.toNat (frames - j * s.bufferSize.toNat)) =
      sliceOf ρ other (j * s.bufferSize.toNat) (min s.bufferSize.toNat (frames - j * s.bufferSize.toNat)) := by
  apply Array.ext_getElem?
  intro i
  rw [getElem?_sliceOf, getElem?_sliceOf]
  split
  · rename_i inside
    have low : i < s.bufferSize.toNat := by omega
    rw [← s.getElem?_block channel j low, same, s.getElem?_block other j low]
  · rfl

theorem HostSettings.request_alike [NatCast ρ] (s : HostSettings) (inputs : List (Array σ)) (frames j : ℕ) :
    (s.request inputs frames j : Request σ ρ).Alike (s.request (inputs.take 1) frames j) where
  first := by cases inputs <;> rfl
  lengths := rfl

end Blocks

section Run

variable {φ ε σ ρ : Type} [BufferEffect ε σ ρ] [Sample ρ σ]
variable [Screen φ] [Add ρ] [Sub ρ] [Mul ρ] [Div ρ] [Neg ρ] [Zero ρ] [One ρ] [NatCast ρ] [IntCast ρ] [LT ρ]
  [DecidableLT ρ] [BEq ρ] [RealNumber ρ]

/-- Every output channel of a run that succeeds is as long as the run, and each of its blocks is what a new
effect leaves when it is handed that block of the first input channel and nothing else. -/
theorem Host.run_block {new e : ε} (forgetful : Forgetful new) (keeps : KeepsLengths ε) (reached : Reachable new e)
    {h : Host φ} {inputs : List (Array σ)} {frames : ℕ} {rendered : List (Array σ)}
    (ran : (h.run e inputs frames).value.result = .ok rendered) :
    rendered.length = h.settings.outputChannels.toNat ∧
    ∀ (k : ℕ) (out : Array σ), rendered[k]? = some out → out.size = frames ∧
      ∀ j, j * h.settings.bufferSize.toNat < frames →
        h.settings.block out j = (call new (h.settings.request (inputs.take 1) frames j)).left k := by
  obtain ⟨length, joins⟩ := audio_of_run_ok keeps ran
  refine ⟨length, fun k out kth => ?_⟩
  obtain ⟨inside, size, left⟩ := joins k out kth
  refine ⟨size, fun j reaches => ?_⟩
  unfold HostSettings.block
  rw [left, block_flatMap_left keeps h.settings h.hasFrames e inputs inside reaches]
  -- the call on the block went through, so its outputs are those of a new effect
  have made : call (BufferEffect.after e ((h.settings.requests inputs frames).take j))
      (h.settings.request inputs frames j) ∈ BufferEffect.calls e (h.settings.requests inputs frames) := by
    rw [calls_requests]
    exact List.mem_map.mpr ⟨j, List.mem_range.mpr ((lt_ceilDiv h.hasFrames frames j).mpr reaches), rfl⟩
  obtain ⟨-, alike⟩ := forgetful _ _ _ _ (reached.after ((h.settings.requests inputs frames).take j)) .start
    (h.settings.request_alike inputs frames j)
  unfold Call.left
  rw [alike ((calls_of_run_ok ran).1 _ made)]

/-- Effects whose runs are blockwise, as far as they succeed. -/
structure Host.Blockwise (φ : Type) {ε σ ρ : Type} [BufferEffect ε σ ρ] [Sample ρ σ] [NatCast ρ]
    [Screen φ] [Add ρ] [Sub ρ] [Mul ρ] [Div ρ] [Neg ρ] [Zero ρ] [One ρ] [IntCast ρ] [LT ρ]
    [DecidableLT ρ] [BEq ρ] [RealNumber ρ] (new : ε) : Prop where
  /-- Every output channel is as long as the run, and each of its blocks is what a new effect leaves when
  it is handed that block of the first input channel and nothing else. -/
  block (h : Host φ) (e : ε) (inputs : List (Array σ)) (frames : ℕ) (rendered : List (Array σ)) :
    Reachable new e → (h.run e inputs frames).value.result = .ok rendered →
      rendered.length = h.settings.outputChannels.toNat ∧
      ∀ (k : ℕ) (out : Array σ), rendered[k]? = some out → out.size = frames ∧
        ∀ j, j * h.settings.bufferSize.toNat < frames →
          h.settings.block out j = (call new (h.settings.request (inputs.take 1) frames j)).left k
  /-- Runs whose first input channels differ in one block alone have audio that differs there alone. -/
  isolated (h h' : Host φ) (e e' : ε) (input input' : Array σ) (rest rest' : List (Array σ)) (frames : ℕ)
    (rendered rendered' : List (Array σ)) (i : ℕ) :
    h.settings = h'.settings → Reachable new e → Reachable new e' →
      (h.run e (input :: rest) frames).value.result = .ok rendered →
      (h'.run e' (input' :: rest') frames).value.result = .ok rendered' →
      (∀ n, n / h.settings.bufferSize.toNat ≠ i → input[n]? = input'[n]?) →
      ∀ (k : ℕ) (out out' : Array σ), rendered[k]? = some out → rendered'[k]? = some out' →
        ∀ n, n / h.settings.bufferSize.toNat ≠ i → out[n]? = out'[n]?

theorem Host.Blockwise.of_forgetful {new : ε} (forgetful : Forgetful new) (keeps : KeepsLengths ε) :
    Blockwise φ new where
  block _ _ _ _ _ reached ran := run_block forgetful keeps reached ran
  isolated := by
    intro h h' e e' input input' rest rest' frames rendered rendered' i settings reached reached' ran ran' same
      k out out' kth kth' n other
    obtain ⟨size, blocks⟩ := (run_block forgetful keeps reached ran).2 k out kth
    obtain ⟨size', blocks'⟩ := (run_block forgetful keeps reached' ran').2 k out' kth'
    rw [← settings] at blocks'
    by_cases inside : n < frames
    · generalize number : n / h.settings.bufferSize.toNat = j at other
      have start : n = j * h.settings.bufferSize.toNat + n % h.settings.bufferSize.toNat := by
        rw [← number, Nat.mul_comm, Nat.div_add_mod]
      have low := Nat.mod_lt n h.hasFrames
      -- the block of the sample was cut from equal blocks
      have cut := sliceOf_congr_block (ρ := ρ) h.settings
        (h.settings.block_congr fun m here => same m (here ▸ other)) frames
      have equal : h.settings.block out j = h.settings.block out' j := by
        rw [blocks j (by omega), blocks' j (by omega)]
        unfold HostSettings.request
        simp only [List.take_succ_cons, List.take_zero, List.map_cons, List.map_nil]
        rw [cut]
      rw [start, ← h.settings.getElem?_block out j low, equal, h.settings.getElem?_block out' j low]
    · rw [Array.getElem?_eq_none (by omega), Array.getElem?_eq_none (by omega)]

end Run

section Whole

variable {φ σ ρ : Type} [Screen φ] [Add ρ] [Sub ρ] [Mul ρ] [Div ρ] [Neg ρ] [Zero ρ] [One ρ]
  [NatCast ρ] [IntCast ρ] [LT ρ] [DecidableLT ρ] [BEq ρ] [RealNumber ρ] [Circular ρ] [Sample ρ σ]

/-- What the effects make their answers of. Two calls on the spectral round trip, or on wavelet round trips
with one bank, end alike after any calls and resets if they hand over the same first input channel and
outputs of the same lengths, and if they succeed leave the same outputs and the same effect, and with it
the same plot. Two calls on the tone do for the same parameters, cursor, envelope, sample rate and output
lengths. So every run of a round trip that succeeds is blockwise. -/
theorem effects_forget :
    Forgetful (SpectralRoundTrip.new : Logged (SpectralRoundTrip ρ)).value ∧
    (∀ bank : Wavelet.FilterBank ρ, Forgetful (WaveletRoundTrip.new bank).value) ∧
    (∀ (e e' : Tone ρ) (r r' : Request σ ρ), e.params = e'.params → e.cursor = e'.cursor →
      e.envelope = e'.envelope →
      r.rate = r'.rate → r.outputs.map Array.size = r'.outputs.map Array.size →
      (call e r).answer.result = (call e' r').answer.result ∧
        ((call e r).answer.result = .ok () → (call e r).answer = (call e' r').answer)) ∧
    Host.Blockwise φ (SpectralRoundTrip.new : Logged (SpectralRoundTrip ρ)).value ∧
    ∀ bank : Wavelet.FilterBank ρ, Host.Blockwise φ (WaveletRoundTrip.new bank).value :=
  ⟨SpectralRoundTrip.forgetful, WaveletRoundTrip.forgetful, fun _ _ _ _ => Tone.call_congr,
    .of_forgetful SpectralRoundTrip.forgetful SpectralRoundTrip.keepsLengths,
    fun bank => .of_forgetful (WaveletRoundTrip.forgetful bank) WaveletRoundTrip.keepsLengths⟩

end Whole

/-- Two tones that differ in their last samples, with other inputs; a new spectral round trip and a used
one, with other inputs, at another rate and with other things in the output; and two runs of three frames
a buffer on inputs that differ in the fifth sample. -/
theorem effects_forget_between :
    (call (⟨.standard, 5, 1, #[1, 2]⟩ : Tone Float) ⟨[#[7]], [#[0, 0]], 48000⟩).answer =
      (call (⟨.standard, 5, 1, #[]⟩ : Tone Float) ⟨[], [#[8, 9]], 48000⟩).answer ∧
    (call (SpectralRoundTrip.new : Logged (SpectralRoundTrip Float)).value
        ⟨[#[1, 2], #[0 / 0]], [#[0, 0]], 48000⟩).answer =
      (call (call (SpectralRoundTrip.new : Logged (SpectralRoundTrip Float)).value
        ⟨[#[4, 5, 6]], [#[0]], 48000⟩).answer.effect ⟨[#[1, 2]], [#[8, 9]], 0 / 0⟩).answer ∧
    ∃ rendered rendered',
      (smallHost.unscoped.run (WaveletRoundTrip.exact ℝ) [#[1, 2, 3, 4, 5]] 7).value.result = .ok rendered ∧
      (smallHost.unscoped.run (WaveletRoundTrip.exact ℝ) [#[1, 2, 3, 4, -9], #[6]] 7).value.result = .ok rendered' ∧
      ∀ (k : ℕ) (out out' : Array ℝ), rendered[k]? = some out → rendered'[k]? = some out' →
        out[2]? = out'[2]? := by
  obtain ⟨spectral, -, tone, -, -⟩ := effects_forget (φ := MemoryScreen) (σ := Float32) (ρ := Float)
  obtain ⟨rendered, ran, -, -⟩ :=
    smallHost.run_unscoped_near (rfl : (WaveletRoundTrip.exact ℝ).bank = _) #[1, 2, 3, 4, 5] [] 7
  obtain ⟨rendered', ran', -, -⟩ :=
    smallHost.run_unscoped_near (rfl : (WaveletRoundTrip.exact ℝ).bank = _) #[1, 2, 3, 4, -9] [#[6]] 7
  have blockwise := (effects_forget (φ := MemoryScreen) (σ := ℝ) (ρ := ℝ)).2.2.2.2
  refine ⟨(tone _ _ _ _ rfl rfl rfl rfl rfl).2 rfl, ?_, rendered, rendered', ran, ran',
    fun k out out' kth kth' => ?_⟩
  · refine (spectral _ _ _ _ .start (.call _ .start) ?_).2 ?_
    · exact ⟨rfl, rfl⟩
    have accepted : Audio.acceptedInput Float [#[1, 2], #[0 / 0]] = .ok (#[1, 2] : Array Float32) :=
      Audio.acceptedInput_of_finite _ (by decide) (by decide +kernel)
    obtain ⟨_, refused, -⟩ | ⟨_, -, ended⟩ := SpectralRoundTrip.call_cases
      (SpectralRoundTrip.new : Logged (SpectralRoundTrip Float)).value ⟨[#[1, 2], #[0 / 0]], [#[0, 0]], 48000⟩
    · cases accepted.symm.trans refused
    · exact congrArg Processed.result ended
  · refine (blockwise (Wavelet.db2.map fun tap => (Decimal.exactValue tap : ℝ))).isolated smallHost.unscoped
      smallHost.unscoped _ _ _ _ _ _ _ _ _ 1 rfl .start .start ran ran' (fun n other => ?_) k out out' kth kth'
      2 (by decide)
    match n with
    | 0 | 1 | 2 => rfl
    | 3 | 4 => exact absurd rfl other
    | n + 5 => rfl

end BufferScope
