/-
The tone over whole histories of calls, with the operations on numbers as given functions: the
cursor counts the samples of the calls that succeeded, the envelope counts those calls, and every
sample is the sine at its absolute index times the gain of its own call. Read over the real numbers,
the envelope is a power of the decay and bounds the samples.
-/
import Mathlib.Algebra.BigOperators.Group.List.Basic
import Mathlib.Algebra.Order.Ring.Abs
import Mathlib.Tactic
import BufferScope.Effect.Tone
import BufferScope.Proofs.Audio.Buffer
import BufferScope.Proofs.Effect.History
import BufferScope.Proofs.Number

namespace BufferScope

open BufferEffect (call calls after successes)

/-- The envelope after `k` buffers: one, multiplied `k` times by the decay. -/
def ToneParams.envelope {ρ : Type} [Mul ρ] [One ρ] (params : ToneParams ρ) (k : ℕ) : ρ :=
  (· * params.decay)^[k] 1

namespace Tone

/-- The length that an accepted call asks for is that of its first output channel. -/
theorem head_of_requested {σ ρ : Type} [Zero ρ] [LT ρ] [DecidableLT ρ] [RealNumber ρ] {outputs : List (Array σ)}
    {rate : ρ} {length : ℕ} (accepted : requested outputs rate = .ok length) :
    (outputs.head?.map Array.size).getD 0 = length := by
  unfold requested Audio.firstOutputLength at accepted
  rcases checked : Audio.ensureSampleRate rate with error | _
  · rw [checked] at accepted
    cases accepted
  · rw [checked] at accepted
    cases outputs with
    | nil => cases accepted
    | cons channel rest =>
      cases accepted
      rfl

theorem getElem?_samplesFrom {ρ : Type} [Mul ρ] [Div ρ] [NatCast ρ] [Circular ρ] (gain frequency rate : ρ)
    (start length i : ℕ) (inside : i < length) :
    (samplesFrom gain frequency rate start length)[i]? =
      some (gain * Circular.sin (phase frequency rate (start + i))) := by
  unfold samplesFrom
  rw [Array.getElem?_ofFn, dif_pos inside]

variable {σ ρ : Type} [Mul ρ] [Div ρ] [Neg ρ] [Zero ρ] [One ρ] [NatCast ρ] [LT ρ] [DecidableLT ρ]
  [RealNumber ρ] [Circular ρ] [Sample ρ σ]

/-! ## One call -/

/-- The tone after a buffer of `length` samples. -/
def advanced (e : Tone ρ) (rate : ρ) (length : ℕ) : Tone ρ where
  params := e.params
  cursor := e.cursor + length
  envelope := e.envelope * e.params.decay
  samples := samplesFrom (e.envelope * e.params.amplitude) e.params.frequency rate e.cursor length

/-- What an accepted call leaves. -/
def played (e : Tone ρ) (r : Request σ ρ) (length : ℕ) : Processed (Tone ρ) σ :=
  ⟨.ok (), e.advanced r.rate length,
    r.outputs.map fun channel => Audio.aligned (e.advanced r.rate length).samples channel.size⟩

/-- A call either refuses and touches nothing, or plays as many samples as it asks for. -/
theorem call_cases (e : Tone ρ) (r : Request σ ρ) :
    (∃ error, requested r.outputs r.rate = .error error ∧ (call e r).answer = .refused e r.outputs error) ∨
    ∃ length, requested r.outputs r.rate = .ok length ∧ (call e r).answer = e.played r length := by
  show (∃ error, _ ∧ (process e r.inputs r.outputs r.rate).value = _) ∨
    ∃ length, _ ∧ (process e r.inputs r.outputs r.rate).value = _
  unfold process
  rcases requested r.outputs r.rate with error | length
  · exact .inl ⟨error, rfl, rfl⟩
  · refine .inr ⟨length, rfl, ?_⟩
    simp only [Logged.value_bind, Logged.value_pure, Audio.value_fanOut]
    rfl

/-- Whether a call succeeds depends on its sample rate and its output channels alone. -/
theorem succeeded_eq (e : Tone ρ) (r : Request σ ρ) : (call e r).succeeded = (requested r.outputs r.rate).isOk := by
  unfold Call.succeeded
  obtain ⟨_, asked, ended⟩ | ⟨_, asked, ended⟩ := call_cases e r
  · rw [asked, ended]
    rfl
  · rw [asked, ended]
    rfl

/-- A call that fails changes neither the tone nor the outputs. -/
theorem call_of_failed {e : Tone ρ} {r : Request σ ρ} (failed : (call e r).succeeded = false) :
    (call e r).answer.effect = e ∧ (call e r).answer.outputs = r.outputs := by
  obtain ⟨_, -, refused⟩ | ⟨_, -, played⟩ := call_cases e r
  · rw [refused]
    exact ⟨rfl, rfl⟩
  · unfold Call.succeeded at failed
    rw [played] at failed
    cases failed

theorem call_of_succeeded {e : Tone ρ} {r : Request σ ρ} (succeeded : (call e r).succeeded = true) :
    (call e r).answer = e.played r (call e r).frames := by
  obtain ⟨_, -, refused⟩ | ⟨length, asked, played⟩ := call_cases e r
  · unfold Call.succeeded at succeeded
    rw [refused] at succeeded
    cases succeeded
  · have frames : (call e r).frames = length := head_of_requested asked
    rw [frames]
    exact played

theorem fansOut : BufferEffect.FansOut (Tone ρ) := by
  intro e r
  obtain ⟨error, -, ended⟩ | ⟨_, -, ended⟩ := call_cases e r
  · exact .inl ⟨error, ended⟩
  · rw [ended]
    exact .inr ⟨rfl, _, rfl⟩

theorem keepsLengths : BufferEffect.KeepsLengths (Tone ρ) := fansOut.keepsLengths

/-! ## Histories -/

/-- What a history leaves: the samples and the calls that succeeded are counted, and nothing else. -/
theorem after_eq (e : Tone ρ) (requests : List (Request σ ρ)) :
    (after e requests).params = e.params ∧
      (after e requests).cursor = e.cursor + Call.framesBefore (successes e requests) (successes e requests).length ∧
      (after e requests).envelope = (· * e.params.decay)^[(successes e requests).length] e.envelope := by
  -- From any tone: a success moves the tone that the rest starts from, a failure does not.
  induction requests generalizing e with
  | nil => exact ⟨rfl, rfl, rfl⟩
  | cons r rest ih =>
    rw [BufferEffect.after_cons, BufferEffect.successes_cons]
    split
    · rename_i succeeded
      have answer := call_of_succeeded succeeded
      obtain ⟨params, cursor, envelope⟩ := ih (call e r).answer.effect
      rw [params, cursor, envelope, answer]
      refine ⟨rfl, ?_, rfl⟩
      unfold Call.framesBefore
      rw [List.length_cons, List.take_succ_cons, List.map_cons, List.sum_cons]
      exact Nat.add_assoc ..
    · rename_i failed
      rw [(call_of_failed (Bool.eq_false_iff.mpr failed)).1]
      exact ih e

/-- A call that succeeded met a tone whose cursor and envelope count the successes before it. -/
theorem success_eq (e : Tone ρ) (requests : List (Request σ ρ)) (k : ℕ) (c : Call (Tone ρ) σ ρ)
    (kth : (successes e requests)[k]? = some c) :
    ∃ before : Tone ρ, before.params = e.params ∧
      before.cursor = e.cursor + Call.framesBefore (successes e requests) k ∧
      before.envelope = (· * e.params.decay)^[k] e.envelope ∧ c.answer = before.played c.request c.frames := by
  induction requests generalizing e k with
  | nil => cases kth
  | cons r rest ih =>
    rw [BufferEffect.successes_cons] at kth ⊢
    split at kth
    · rename_i succeeded
      have answer := call_of_succeeded succeeded
      rw [if_pos succeeded]
      cases k with
      | zero =>
        cases kth
        exact ⟨e, rfl, rfl, rfl, answer⟩
      | succ k =>
        obtain ⟨before, params, cursor, envelope, played⟩ := ih _ k kth
        rw [answer] at params cursor envelope
        refine ⟨before, params, ?_, envelope, played⟩
        unfold Call.framesBefore
        rw [cursor, List.take_succ_cons, List.map_cons, List.sum_cons, answer]
        exact Nat.add_assoc ..
    · rename_i failed
      rw [if_neg failed]
      rw [(call_of_failed (Bool.eq_false_iff.mpr failed)).1] at kth ⊢
      exact ih e k kth

/-! ## The sound of a history -/

/-- What a tone played, call after call. -/
def stream (played : List (Call (Tone ρ) σ ρ)) : List ρ := played.flatMap fun c => c.answer.effect.samples.toList

/-- The buffers that have ended by sample `x`, for buffers of the given lengths in order. -/
def buffersEnded : List ℕ → ℕ → ℕ
  | [], _ => 0
  | length :: rest, x => if x < length then 0 else buffersEnded rest (x - length) + 1

/-- At one sample rate, the phase of a sample depends on its absolute index alone, and its gain on
the number of buffers that ended before it. -/
theorem getElem?_stream (e : Tone ρ) (requests : List (Request σ ρ)) (rate : ρ)
    (steady : ∀ c ∈ successes e requests, c.request.rate = rate) (x : ℕ)
    (inside : x < ((successes e requests).map Call.frames).sum) :
    (stream (successes e requests))[x]? =
      some ((· * e.params.decay)^[buffersEnded ((successes e requests).map Call.frames) x] e.envelope
        * e.params.amplitude * Circular.sin (phase e.params.frequency rate (e.cursor + x))) := by
  induction requests generalizing e x with
  | nil => cases inside
  | cons r rest ih =>
    rw [BufferEffect.successes_cons] at steady inside ⊢
    split at steady
    · rename_i succeeded
      have answer := call_of_succeeded succeeded
      rw [if_pos succeeded] at inside ⊢
      have samples : (call e r).answer.effect.samples =
          samplesFrom (e.envelope * e.params.amplitude) e.params.frequency rate e.cursor (call e r).frames := by
        rw [answer, ← steady _ (List.mem_cons_self ..)]
        rfl
      have size : (call e r).answer.effect.samples.toList.length = (call e r).frames := by
        rw [samples]
        simp [samplesFrom]
      -- the sample is one of this buffer's, or lies in what the tone after it goes on to play
      unfold stream
      simp only [List.map_cons, List.sum_cons] at inside
      simp only [List.flatMap_cons, List.map_cons, buffersEnded]
      split
      · rename_i early
        rw [List.getElem?_append_left (by omega), Array.getElem?_toList, samples,
          getElem?_samplesFrom _ _ _ _ _ _ early]
        rfl
      · rename_i late
        rw [List.getElem?_append_right (by omega), size]
        have later := ih (call e r).answer.effect (fun c hc => steady c (List.mem_cons_of_mem _ hc))
          (x - (call e r).frames) (by omega)
        unfold stream at later
        rw [later, answer]
        have place : e.cursor + (call e r).frames + (x - (call e r).frames) = e.cursor + x := by omega
        simp only [played, advanced, place]
        rfl
    · rename_i failed
      rw [if_neg failed] at inside ⊢
      rw [(call_of_failed (Bool.eq_false_iff.mpr failed)).1] at steady inside ⊢
      exact ih e steady x inside

/-! ## Exact readings -/

theorem envelope_eq_pow {R : Type} [CommRing R] (params : ToneParams R) (k : ℕ) :
    params.envelope k = params.decay ^ k := by
  unfold ToneParams.envelope
  rw [mul_right_iterate]
  exact one_mul _

/-- A sample over the real numbers is no larger than its gain. -/
theorem abs_sample_le (gain frequency rate : ℝ) (start length : ℕ) :
    ∀ sample ∈ samplesFrom gain frequency rate start length, |sample| ≤ |gain| := by
  intro sample member
  obtain ⟨i, rfl⟩ := Array.mem_ofFn.mp member
  rw [abs_mul]
  exact mul_le_of_le_one_right (abs_nonneg gain) (Real.abs_sin_le_one _)

/-! ## The whole story -/

/-- A new tone over any history of calls, failing ones included. The cursor is the number of frames
of the calls that succeeded, and the envelope is one multiplied by the decay once for each of them.
Sample `i` of success `k` is the sine at its absolute index, times the amplitude under the envelope
before that call, and goes to every channel; a call that fails changes nothing. Two histories at one
sample rate meet the oscillator at every absolute index with the same phase, and differ in the gain
alone. Over the real numbers the envelope is a power of the decay, which bounds the samples. -/
theorem tone_history (params : ToneParams ρ) (requests : List (Request σ ρ)) :
    ((after (atStart params) requests).cursor =
        Call.framesBefore (successes (atStart params) requests) (successes (atStart params) requests).length ∧
      (after (atStart params) requests).envelope =
        params.envelope (successes (atStart params) requests).length) ∧
    (∀ k c, (successes (atStart params) requests)[k]? = some c →
      c.answer.effect.cursor = Call.framesBefore (successes (atStart params) requests) k + c.frames ∧
      c.answer.effect.envelope = params.envelope k * params.decay ∧
      c.answer.effect.samples.size = c.frames ∧
      (∀ i < c.frames, c.answer.effect.samples[i]? =
        some (params.envelope k * params.amplitude *
          Circular.sin (((2 : ℕ) : ρ) * Circular.pi * params.frequency
            * ((Call.framesBefore (successes (atStart params) requests) k + i : ℕ) : ρ) / c.request.rate))) ∧
      c.answer.outputs = c.request.outputs.map fun channel =>
        Audio.aligned c.answer.effect.samples channel.size) ∧
    (∀ j c, (calls (atStart params) requests)[j]? = some c → c.succeeded = false →
      c.answer.effect = after (atStart params) (requests.take j) ∧ c.answer.outputs = c.request.outputs) ∧
    (∀ (others : List (Request σ ρ)) (rate : ρ),
      (∀ c ∈ successes (atStart params) requests, c.request.rate = rate) →
      (∀ c ∈ successes (atStart params) others, c.request.rate = rate) →
      ∀ x, x < ((successes (atStart params) requests).map Call.frames).sum →
        x < ((successes (atStart params) others).map Call.frames).sum →
        (stream (successes (atStart params) requests))[x]? =
          some (params.envelope (buffersEnded ((successes (atStart params) requests).map Call.frames) x)
            * params.amplitude * Circular.sin (((2 : ℕ) : ρ) * Circular.pi * params.frequency * (x : ρ) / rate)) ∧
        (stream (successes (atStart params) others))[x]? =
          some (params.envelope (buffersEnded ((successes (atStart params) others).map Call.frames) x)
            * params.amplitude * Circular.sin
              (((2 : ℕ) : ρ) * Circular.pi * params.frequency * (x : ρ) / rate))) ∧
    (∀ {τ : Type} [RealNumber ℝ] [Sample ℝ τ] (params : ToneParams ℝ) (requests : List (Request τ ℝ)),
      (after (atStart params) requests).envelope = params.decay ^ (successes (atStart params) requests).length ∧
      ∀ k c, (successes (atStart params) requests)[k]? = some c →
        ∀ sample ∈ c.answer.effect.samples, |sample| ≤ |params.amplitude| * |params.decay| ^ k) := by
  refine ⟨(after_eq (atStart params) requests).2.imp (fun cursor => cursor.trans (Nat.zero_add _)) id,
    ?_, ?_, ?_, ?_⟩
  · intro k c kth
    obtain ⟨before, same, cursor, envelope, answer⟩ := success_eq (atStart params) requests k c kth
    have start : before.cursor = Call.framesBefore (successes (atStart params) requests) k :=
      cursor.trans (Nat.zero_add _)
    rw [answer, ← start]
    refine ⟨rfl, ?_, Array.size_ofFn, ?_, rfl⟩
    · show before.envelope * before.params.decay = _
      rw [envelope, same]
      rfl
    · intro i inside
      refine (getElem?_samplesFrom _ _ _ _ _ i inside).trans ?_
      rw [envelope, same]
      rfl
  · intro j c jth failed
    rw [BufferEffect.getElem?_calls, Option.map_eq_some_iff] at jth
    obtain ⟨r, -, rfl⟩ := jth
    exact call_of_failed failed
  · intro others rate steady steady' x inside inside'
    have first := getElem?_stream (atStart params) requests rate steady x inside
    have second := getElem?_stream (atStart params) others rate steady' x inside'
    have index : (atStart params).cursor + x = x := Nat.zero_add x
    rw [index] at first second
    exact ⟨first, second⟩
  · intro τ _ _ params requests
    refine ⟨?_, fun k c kth => ?_⟩
    · rw [(after_eq (atStart params) requests).2.2]
      exact envelope_eq_pow params _
    · obtain ⟨before, same, -, envelope, answer⟩ := success_eq (atStart params) requests k c kth
      have gain : |before.envelope * before.params.amplitude| = |params.amplitude| * |params.decay| ^ k := by
        have power : before.envelope = params.decay ^ k := envelope.trans (envelope_eq_pow params k)
        rw [power, same, abs_mul, abs_pow, mul_comm]
        rfl
      rw [answer, ← gain]
      exact abs_sample_le _ _ _ _ _

/-- Two samples, a call without output channels, an empty buffer, and three samples. -/
def interrupted : List (Request Float32 Float) :=
  [⟨[], [#[0, 0]], 48000⟩, ⟨[], [], 48000⟩, ⟨[], [#[]], 48000⟩, ⟨[], [#[0, 0, 0]], 48000⟩]

/-- Five samples at once. -/
def uninterrupted : List (Request Float32 Float) := [⟨[], [#[0, 0, 0, 0, 0]], 48000⟩]

/-- The interrupted history under the standard parameters, beside the uninterrupted one, and one
sample over the real numbers. -/
theorem tone_history_interrupted :
    (∃ c, (successes (atStart .standard) interrupted)[2]? = some c ∧ 1 < c.frames ∧
      Call.framesBefore (successes (atStart .standard) interrupted) 2 = 2 ∧
      c.answer.effect.samples[1]? = some (ToneParams.standard.envelope 2 * ToneParams.standard.amplitude *
        Circular.sin
          (((2 : ℕ) : Float) * Circular.pi * ToneParams.standard.frequency * ((2 + 1 : ℕ) : Float) / 48000))) ∧
    (∃ c, (calls (atStart .standard) interrupted)[1]? = some c ∧ c.succeeded = false ∧
      c.answer.effect = after (atStart .standard) (interrupted.take 1)) ∧
    ((stream (successes (atStart .standard) interrupted))[3]? =
        some (ToneParams.standard.envelope 2 * ToneParams.standard.amplitude *
          Circular.sin
            (((2 : ℕ) : Float) * Circular.pi * ToneParams.standard.frequency * ((3 : ℕ) : Float) / 48000)) ∧
      (stream (successes (atStart .standard) uninterrupted))[3]? =
        some (ToneParams.standard.envelope 0 * ToneParams.standard.amplitude *
          Circular.sin
            (((2 : ℕ) : Float) * Circular.pi * ToneParams.standard.frequency * ((3 : ℕ) : Float) / 48000))) ∧
    ∃ (_ : RealNumber ℝ) (_ : Sample ℝ ℝ) (c : Call (Tone ℝ) ℝ ℝ),
      (successes (atStart (⟨1, 2, -1 / 2⟩ : ToneParams ℝ)) ([⟨[], [#[0]], 1⟩] : List (Request ℝ ℝ)))[0]? =
        some c ∧
      ∀ sample ∈ c.answer.effect.samples, |sample| ≤ |(2 : ℝ)| * |(-1 / 2 : ℝ)| ^ 0 := by
  obtain ⟨-, succeeded, failed, together, -⟩ := tone_history .standard interrupted
  refine ⟨⟨_, rfl, by decide, rfl, ?_⟩, ⟨_, rfl, rfl, (failed 1 _ rfl rfl).1⟩, ?_, ?_⟩
  · exact (succeeded 2 _ rfl).2.2.2.1 1 (by decide)
  · exact together uninterrupted 48000 (by decide +kernel) (by decide +kernel) 3 (by decide +kernel)
      (by decide +kernel)
  · let numbers : RealNumber ℝ := ⟨fun _ => true, fun x => ⌊x + 1 / 2⌋, fun _ => 0⟩
    let samples : Sample ℝ ℝ := ⟨0, id, id, fun _ => true, fun _ => 0⟩
    have accepted : (requested ([#[0]] : List (Array ℝ)) (1 : ℝ)).isOk = true := by
      unfold requested Audio.ensureSampleRate
      rw [if_pos (by simp [numbers, RealNumber.isFinite])]
      rfl
    have first : (call (atStart (⟨1, 2, -1 / 2⟩ : ToneParams ℝ))
        (⟨[], [#[0]], 1⟩ : Request ℝ ℝ)).succeeded = true :=
      (succeeded_eq _ _).trans accepted
    have kth : (successes (atStart (⟨1, 2, -1 / 2⟩ : ToneParams ℝ))
        ([⟨[], [#[0]], 1⟩] : List (Request ℝ ℝ)))[0]? =
        some (call (atStart (⟨1, 2, -1 / 2⟩ : ToneParams ℝ)) (⟨[], [#[0]], 1⟩ : Request ℝ ℝ)) := by
      rw [BufferEffect.successes_cons, if_pos first]
      rfl
    exact ⟨numbers, samples, _, kth,
      ((tone_history (⟨1, 2, -1 / 2⟩ : ToneParams ℝ) ([⟨[], [#[0]], 1⟩] : List (Request ℝ ℝ))).2.2.2.2
        (⟨1, 2, -1 / 2⟩ : ToneParams ℝ) ([⟨[], [#[0]], 1⟩] : List (Request ℝ ℝ))).2 0 _ kth⟩

end Tone

end BufferScope
