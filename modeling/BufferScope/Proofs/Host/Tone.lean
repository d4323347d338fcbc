/-
The tone over runs on a host. The phase counts the samples of all runs and the envelope their buffers, of
which the last of a run may be short, so that no boundary shows in the phase.
-/
import BufferScope.Proofs.Float
import BufferScope.Proofs.Effect.Tone
import BufferScope.Proofs.Host.Block
import BufferScope.Proofs.Host.Resume
import BufferScope.Proofs.Host.Session

namespace BufferScope

open BufferEffect (call calls after)

namespace Tone

variable {σ ρ : Type} [Mul ρ] [Div ρ] [Neg ρ] [Zero ρ] [One ρ] [NatCast ρ] [LT ρ] [DecidableLT ρ]
  [RealNumber ρ] [Circular ρ] [Sample ρ σ]

/-! ## The calls of a run -/

/-- What a call that is accepted leaves in a channel. -/
theorem getElem?_left {e : Tone ρ} {r : Request σ ρ} {length : ℕ} (answer : (call e r).answer = e.played r length)
    {k : ℕ} {channel : Array σ} (here : r.outputs[k]? = some channel) {i : ℕ} (inside : i < channel.size)
    (reached : i < length) : ((call e r).left k)[i]? =
      some (Sample.narrow (e.envelope * e.params.amplitude *
        Circular.sin (phase e.params.frequency r.rate (e.cursor + i)))) := by
  have sample := getElem?_samplesFrom (e.envelope * e.params.amplitude) e.params.frequency r.rate e.cursor length i
    reached
  obtain ⟨filled, value⟩ := Array.getElem?_eq_some_iff.mp sample
  unfold Call.left
  rw [answer, played, List.getElem?_map, here]
  show (Audio.aligned (samplesFrom _ _ _ _ _) channel.size : Array σ).toList[i]? = _
  rw [Array.getElem?_toList, Audio.getElem?_aligned inside filled, value]

section Run

variable [WholeRates ρ] {settings : HostSettings} (hasRate : settings.sampleRate ≠ 0)
  (hasOutput : 0 < settings.outputChannels.toNat) (inputs : List (Array σ)) (frames : ℕ)

include hasRate hasOutput

/-- Whatever the tone, a call for buffer `j` plays it to its end. -/
theorem call_request (e : Tone ρ) (j : ℕ) :
    (call e (settings.request inputs frames j)).answer = e.played (settings.request inputs frames j)
      (min settings.bufferSize.toNat (frames - j * settings.bufferSize.toNat)) := by
  have positive : 0 < settings.sampleRate.toNat := Nat.pos_of_ne_zero fun zero => hasRate (UInt32.toNat_inj.mp zero)
  have usable : Audio.ensureSampleRate (settings.sampleRate.toNat : ρ) = .ok () := by
    unfold Audio.ensureSampleRate
    rw [if_pos (by simpa using WholeRates.usable (ρ := ρ) _ positive settings.sampleRate.toNat_lt)]
  have asked : requested (settings.request inputs frames j : Request σ ρ).outputs (settings.sampleRate.toNat : ρ) =
      .ok (min settings.bufferSize.toNat (frames - j * settings.bufferSize.toNat)) := by
    obtain ⟨more, channels⟩ := Nat.exists_eq_succ_of_ne_zero hasOutput.ne'
    unfold requested HostSettings.request silentChannels
    dsimp only
    rw [usable, channels, List.replicate_succ]
    show Except.ok _ = _
    rw [Array.size_replicate]
  obtain ⟨_, refused, -⟩ | ⟨length, accepted, ended⟩ := call_cases e (settings.request inputs frames j)
  · cases asked.symm.trans refused
  · cases asked.symm.trans accepted
    exact ended

/-- A buffer that begins before the end of a run has a plot. -/
theorem exists_plot_request (positive : 0 < settings.bufferSize.toNat) (e : Tone ρ) {j : ℕ}
    (more : j * settings.bufferSize.toNat < frames) :
    ∃ plot, (call e (settings.request inputs frames j)).answer.effect.plot = some plot := by
  rw [call_request hasRate hasOutput inputs frames e j]
  unfold Tone.plot
  rw [if_neg]
  · exact ⟨_, rfl⟩
  · rw [Array.isEmpty_iff_size_eq_zero]
    show (Array.ofFn _).size ≠ 0
    rw [Array.size_ofFn]
    omega

theorem processed_requests (e : Tone ρ) :
    ∀ c ∈ calls e (settings.requests inputs frames), c.answer.result = .ok () := by
  intro c made
  obtain ⟨handed, before, same⟩ := BufferEffect.mem_calls made
  obtain ⟨j, -, request⟩ := List.mem_map.mp handed
  rw [same, ← request, call_request hasRate hasOutput inputs frames before j]
  rfl

/-- The tone after the calls for the first `j` buffers. -/
theorem after_requests (e : Tone ρ) {j : ℕ} (reached : j ≤ frames ⌈/⌉ settings.bufferSize.toNat) :
    (after e ((settings.requests inputs frames).take j)).params = e.params ∧
      (after e ((settings.requests inputs frames).take j)).cursor =
        e.cursor + min (j * settings.bufferSize.toNat) frames ∧
      (after e ((settings.requests inputs frames).take j)).envelope = (· * e.params.decay)^[j] e.envelope := by
  rw [settings.take_requests inputs reached]
  clear reached
  induction j with
  | zero => exact ⟨rfl, by simp, rfl⟩
  | succ j ih =>
    obtain ⟨params, cursor, envelope⟩ := ih
    rw [List.range_succ, List.map_append, BufferEffect.after_append, List.map_singleton, BufferEffect.after_cons,
      BufferEffect.after_nil, call_request hasRate hasOutput]
    refine ⟨params, ?_, ?_⟩
    · show (after e _).cursor + _ = _
      rw [cursor, Nat.succ_mul]
      omega
    · show (after e _).envelope * (after e _).params.decay = _
      rw [params, envelope, Function.iterate_succ_apply']

end Run

/-! ## One run -/

/-- Sample `n` of a run, before it is rounded: the sine at its absolute index under the envelope of its
buffer. -/
def sampleOf (e : Tone ρ) (settings : HostSettings) (n : ℕ) : ρ :=
  (· * e.params.decay)^[n / settings.bufferSize.toNat] e.envelope * e.params.amplitude *
    Circular.sin (phase e.params.frequency (settings.sampleRate.toNat : ρ) (e.cursor + n))

variable [WholeRates ρ]

/-- What the call for a buffer leaves in a channel are samples of the run. -/
theorem left_request (settings : HostSettings) (hasRate : settings.sampleRate ≠ 0)
    (positive : 0 < settings.bufferSize.toNat) (inputs : List (Array σ)) (e : Tone ρ) {frames n k : ℕ}
    (inside : k < settings.outputChannels.toNat) (reached : n < frames) :
    ((call (after e ((settings.requests inputs frames).take (n / settings.bufferSize.toNat)))
        (settings.request inputs frames (n / settings.bufferSize.toNat))).left k)[n % settings.bufferSize.toNat]? =
      some (Sample.narrow (e.sampleOf settings n)) := by
  have place := Nat.div_add_mod' n settings.bufferSize.toNat
  have low := Nat.mod_lt n positive
  unfold sampleOf
  generalize n / settings.bufferSize.toNat = j at place ⊢
  generalize n % settings.bufferSize.toNat = i at place low ⊢
  have number : j ≤ frames ⌈/⌉ settings.bufferSize.toNat := ((lt_ceilDiv positive frames j).mpr (by omega)).le
  obtain ⟨params, cursor, envelope⟩ := after_requests hasRate (by omega) inputs frames e number
  rw [min_eq_left (by omega)] at cursor
  have answer := call_request hasRate (by omega) inputs frames
    (after e ((settings.requests inputs frames).take j)) j
  generalize after e ((settings.requests inputs frames).take j) = before at params cursor envelope answer ⊢
  have here : (settings.request inputs frames j : Request σ ρ).outputs[k]? = some (Array.replicate
      (min settings.bufferSize.toNat (frames - j * settings.bufferSize.toNat)) (Sample.silence ρ)) :=
    (List.getElem?_replicate ..).trans (if_pos inside)
  rw [getElem?_left answer here (by rw [Array.size_replicate]; omega) (by omega), params, cursor, envelope,
    Nat.add_assoc, place]
  rfl

variable {φ : Type} [Screen φ] [Add ρ] [Sub ρ] [IntCast ρ] [BEq ρ]

/-- A run leaves its samples in every channel, and the tone after them. -/
theorem run_plays (h : Host φ) (e : Tone ρ) (inputs : List (Array σ)) (frames : ℕ)
    (taken : ∀ t ∈ h.turns e inputs frames, ∀ b, t.blit = some b → b.answer = .ok ()) :
    (∃ audio, (h.run e inputs frames).value.result = .ok audio ∧
      audio.length = h.settings.outputChannels.toNat ∧
      ∀ out ∈ audio, out.size = frames ∧
        ∀ n < frames, out[n]? = some (Sample.narrow (e.sampleOf h.settings n))) ∧
    (h.run e inputs frames).value.effect.params = e.params ∧
    (h.run e inputs frames).value.effect.cursor = e.cursor + frames ∧
    (h.run e inputs frames).value.effect.envelope =
      (· * e.params.decay)^[frames ⌈/⌉ h.settings.bufferSize.toNat] e.envelope := by
  obtain ⟨result, left⟩ := h.run_of_processed e inputs frames
    (processed_requests h.hasRate h.hasOutput inputs frames e) taken
  obtain ⟨length, joins⟩ := Host.audio_of_run_ok keepsLengths result
  refine ⟨⟨_, result, length, fun out member => ?_⟩, ?_⟩
  · obtain ⟨k, kth⟩ := List.getElem?_of_mem member
    obtain ⟨inside, size, samples⟩ := joins k out kth
    refine ⟨size, fun n reaches => ?_⟩
    rw [← Array.getElem?_toList, samples,
      getElem?_flatMap_left keepsLengths h.settings h.hasFrames e inputs inside reaches]
    exact left_request h.settings h.hasRate h.hasFrames inputs e inside reaches
  · have all := after_requests h.hasRate h.hasOutput inputs frames e le_rfl
    rw [List.take_of_length_le (HostSettings.length_requests ..).le,
      min_eq_right (le_ceilDiv_mul h.hasFrames frames)] at all
    rw [left]
    exact all

/-! ## A session -/

/-- A run over some frames, with the effect as it is. -/
def job (run : List (Array σ) × ℕ) : Job (Tone ρ) σ := { inputs := run.1, frames := run.2 }

/-- What a session leaves: the frames of its runs and their buffers are counted, and nothing else. -/
theorem session_eq (runs : List (List (Array σ) × ℕ)) : ∀ s : Stage φ (Tone ρ),
    (∀ t ∈ s.turns (runs.map job), ∀ b, t.blit = some b → b.answer = .ok ()) →
      (s.after (runs.map job)).effect.cursor = s.effect.cursor + (runs.map Prod.snd).sum ∧
      ∀ r inputs frames, runs[r]? = some (inputs, frames) →
        ∃ before : Tone ρ, before.params = s.effect.params ∧
          before.cursor = s.effect.cursor + ((runs.take r).map Prod.snd).sum ∧
          before.envelope = (· * s.effect.params.decay)^[
            ((runs.take r).map fun run => run.2 ⌈/⌉ s.host.settings.bufferSize.toNat).sum] s.effect.envelope ∧
          ∃ audio, (s.results (runs.map job))[r]? = some (.ok audio) ∧
            audio.length = s.host.settings.outputChannels.toNat ∧
            ∀ out ∈ audio, out.size = frames ∧
              ∀ n < frames, out[n]? = some (Sample.narrow (before.sampleOf s.host.settings n)) := by
  -- From any stage: a run moves the tone that the rest of the session starts from.
  induction runs with
  | nil => exact fun s _ => ⟨rfl, fun r inputs frames absent => nomatch absent⟩
  | cons run rest ih =>
    intro s taken
    rw [List.map_cons, Stage.turns] at taken
    obtain ⟨⟨audio, result, length, plays⟩, params, cursor, envelope⟩ :=
      run_plays s.host s.effect run.1 run.2 fun t now => taken t (List.mem_append_left _ now)
    obtain ⟨last, later⟩ := ih (s.next (job run)) fun t later => taken t (List.mem_append_right _ later)
    have moved : (s.next (job run)).effect.params = s.effect.params ∧
        (s.next (job run)).effect.cursor = s.effect.cursor + run.2 ∧
        (s.next (job run)).effect.envelope =
          (· * s.effect.params.decay)^[run.2 ⌈/⌉ s.host.settings.bufferSize.toNat] s.effect.envelope :=
      ⟨params, cursor, envelope⟩
    have settings : (s.next (job run)).host.settings = s.host.settings := s.host.settings_run _ _ _
    rw [settings, moved.1, moved.2.1, moved.2.2] at later
    refine ⟨?_, fun r inputs frames rth => ?_⟩
    · rw [List.map_cons, Stage.after_cons, last, moved.2.1, List.map_cons, List.sum_cons, Nat.add_assoc]
    · rw [List.map_cons, Stage.results_cons]
      cases r with
      | zero =>
        cases rth
        exact ⟨s.effect, rfl, rfl, rfl, audio, congrArg some result, length, plays⟩
      | succ r =>
        obtain ⟨before, params, cursor, envelope, ended⟩ := later r inputs frames rth
        refine ⟨before, params, ?_, ?_, ended⟩
        · rw [cursor, List.take_succ_cons, List.map_cons, List.sum_cons, Nat.add_assoc]
        · rw [envelope, List.take_succ_cons, List.map_cons, List.sum_cons, Nat.add_comm, Function.iterate_add_apply]

/-- Any number of runs over any frames on one host, with any inputs, that start with a new tone; the screen,
where there is one, takes every frame. Every run gives the output channels of the host, each of the asked
length. Sample `n` of run `r` is the same in all of them: the sine at the index that the sample has in all
runs together, times the amplitude under an envelope that was multiplied by the decay once for each buffer of
the runs before, short ones included, and for each buffer of this run before that of the sample. No boundary of
a buffer or of a run is in the phase. After the runs the cursor is the number of all frames. -/
theorem session_phase (h : Host φ) (params : ToneParams ρ) (runs : List (List (Array σ) × ℕ))
    (taken : ∀ t ∈ (⟨h, atStart params⟩ : Stage φ (Tone ρ)).turns (runs.map job), ∀ b, t.blit = some b →
      b.answer = .ok ()) :
    (∀ r inputs frames, runs[r]? = some (inputs, frames) →
      ∃ audio, ((⟨h, atStart params⟩ : Stage φ (Tone ρ)).results (runs.map job))[r]? = some (.ok audio) ∧
        audio.length = h.settings.outputChannels.toNat ∧
        ∀ out ∈ audio, out.size = frames ∧ ∀ n < frames, out[n]? = some (Sample.narrow
          (params.envelope
              (((runs.take r).map fun run => run.2 ⌈/⌉ h.settings.bufferSize.toNat).sum +
                n / h.settings.bufferSize.toNat)
            * params.amplitude
            * Circular.sin (((2 : ℕ) : ρ) * Circular.pi * params.frequency *
                ((((runs.take r).map Prod.snd).sum + n : ℕ) : ρ) / h.rate ρ)))) ∧
    ((⟨h, atStart params⟩ : Stage φ (Tone ρ)).after (runs.map job)).effect.cursor = (runs.map Prod.snd).sum := by
  obtain ⟨last, plays⟩ := session_eq runs ⟨h, atStart params⟩ taken
  refine ⟨fun r inputs frames rth => ?_, last.trans (Nat.zero_add _)⟩
  obtain ⟨before, same, cursor, envelope, audio, result, length, samples⟩ := plays r inputs frames rth
  refine ⟨audio, result, length, fun out member => ⟨(samples out member).1, fun n reaches => ?_⟩⟩
  rw [(samples out member).2 n reaches]
  unfold sampleOf
  rw [same, cursor, envelope, ← Function.iterate_add_apply, Nat.add_comm (n / _)]
  show some (Sample.narrow (_ * _ * Circular.sin (phase _ _ (0 + _ + _)))) = _
  rw [Nat.zero_add]
  rfl

/-- Four frames and then five, with three frames a buffer. The last sample of the second run is in its second
buffer, behind two buffers of the first run, and has the index eight. -/
theorem session_phase_short_buffer :
    (∀ t ∈ (⟨smallHost, atStart .standard⟩ : Stage MemoryScreen (Tone Float)).turns
        ([([], 4), ([#[7]], 5)].map job), ∀ b, t.blit = some b → b.answer = .ok ()) ∧
    (∃ first second, ((⟨smallHost, atStart .standard⟩ : Stage MemoryScreen (Tone Float)).results
        ([([], 4), ([#[7]], 5)].map job))[1]? = some (.ok [first, second]) ∧ second.size = 5 ∧
      second[4]? = some (Sample.narrow (ToneParams.standard.envelope (2 + 1) * ToneParams.standard.amplitude *
        Circular.sin (((2 : ℕ) : Float) * Circular.pi * ToneParams.standard.frequency *
          ((4 + 4 : ℕ) : Float) / ((48000 : ℕ) : Float))))) ∧
    ((⟨smallHost, atStart .standard⟩ : Stage MemoryScreen (Tone Float)).after
      ([([], 4), ([#[7]], 5)].map job)).effect.cursor = 9 := by
  have taken := Stage.answer_of_mem_turns (fun _ _ => rfl) ([([], 4), ([#[7]], 5)].map job)
    (⟨smallHost, atStart .standard⟩ : Stage MemoryScreen (Tone Float))
  obtain ⟨plays, cursor⟩ := session_phase smallHost .standard [([], 4), ([#[7]], 5)] taken
  obtain ⟨audio, result, length, samples⟩ := plays 1 _ _ rfl
  obtain ⟨first, second, rfl⟩ := List.length_eq_two.mp length
  obtain ⟨size, at'⟩ := samples second (by simp)
  exact ⟨taken, ⟨first, second, result, size, at' 4 (by decide)⟩, cursor⟩

end Tone

end BufferScope
