/-
Calls that fail. `refuses`: each of the three effects fails exactly for a fault of the request, whatever
state it is in, and a call that fails might as well not have been made.
-/
import BufferScope.Proofs.Effect.Spectral
import BufferScope.Proofs.Effect.Tone
import BufferScope.Proofs.Effect.Wavelet

namespace BufferScope

open BufferEffect (call)

/-! ## Uses of an effect -/

/-- One use of an effect. -/
inductive Use (σ ρ : Type) where
  | call (r : Request σ ρ)
  | reset

/-- What comes of a use: the effect after it and, for a call, the answer. -/
structure Outcome (ε σ : Type) where
  effect : ε
  answer : Option (Processed ε σ)

/-- Whether the use was a call, and it failed. -/
def Outcome.failed {ε σ : Type} (o : Outcome ε σ) : Bool := o.answer.any fun answer => !answer.result.isOk

namespace BufferEffect

variable {ε σ ρ : Type} [BufferEffect ε σ ρ]

def use (e : ε) : Use σ ρ → Outcome ε σ
  | .call r => ⟨(call e r).answer.effect, some (call e r).answer⟩
  | .reset => ⟨reset e, none⟩

/-- What comes of a history of uses, one after the other. -/
def outcomes (e : ε) : List (Use σ ρ) → List (Outcome ε σ)
  | [] => []
  | u :: rest => use e u :: outcomes (use e u).effect rest

/-- The effect after a history of uses. -/
def used (e : ε) (uses : List (Use σ ρ)) : ε := uses.foldl (fun e u => (use e u).effect) e

/-- A history of uses without the calls that fail in it. -/
def withoutFailures (e : ε) : List (Use σ ρ) → List (Use σ ρ)
  | [] => []
  | u :: rest =>
    if (use e u).failed then withoutFailures (use e u).effect rest else u :: withoutFailures (use e u).effect rest

/-! ## Refusals -/

/-- Effects that fail for a fault of the request and for nothing else, and that a failure leaves as
they were. -/
structure Refuses (ε : Type) {σ ρ : Type} [BufferEffect ε σ ρ] (fault : Request σ ρ → AudioError → Prop) :
    Prop where
  /-- A call fails exactly for a fault, and says which. -/
  fails_iff (e : ε) (r : Request σ ρ) (error : AudioError) :
    (call e r).answer.result = .error error ↔ fault r error
  /-- A call that fails leaves the outputs and the effect alone. -/
  untouched (e : ε) (r : Request σ ρ) (error : AudioError) : (call e r).answer.result = .error error →
    (call e r).answer.outputs = r.outputs ∧ (call e r).answer.effect = e
  /-- Without the calls that fail, all other uses of a history come out the same. -/
  forgotten (e : ε) (uses : List (Use σ ρ)) :
    outcomes e (withoutFailures e uses) = (outcomes e uses).filter (!·.failed) ∧
      used e (withoutFailures e uses) = used e uses

/-- A use that fails leaves the effect alone, when calls that fail do. -/
theorem use_of_failed {e : ε} {u : Use σ ρ}
    (untouched : ∀ (r : Request σ ρ) error, (call e r).answer.result = .error error →
      (call e r).answer.effect = e)
    (failed : (use e u).failed = true) : (use e u).effect = e := by
  cases u with
  | reset => cases failed
  | call r =>
    rcases ended : (call e r).answer.result with error | _
    · exact untouched r error ended
    · unfold use Outcome.failed at failed
      rw [Option.any_some, ended] at failed
      cases failed

theorem outcomes_withoutFailures
    (untouched : ∀ (e : ε) (r : Request σ ρ) error,
      (call e r).answer.result = .error error → (call e r).answer.effect = e)
    (uses : List (Use σ ρ)) : ∀ e : ε,
      outcomes e (withoutFailures e uses) = (outcomes e uses).filter (!·.failed) ∧
        used e (withoutFailures e uses) = used e uses := by
  induction uses with
  | nil => exact fun _ => ⟨rfl, rfl⟩
  | cons u rest ih =>
    intro e
    obtain ⟨others, last⟩ := ih (use e u).effect
    show _ = (use e u :: outcomes (use e u).effect rest).filter _ ∧ _ = used (use e u).effect rest
    unfold withoutFailures
    rw [List.filter_cons]
    cases failed : (use e u).failed with
    | true =>
      -- the rest meets the effect as the failed call found it
      have same := use_of_failed (untouched e) failed
      rw [same] at others last ⊢
      exact ⟨others, last⟩
    | false => exact ⟨congrArg (use e u :: ·) others, last⟩

/-- An effect refuses what a check of the request finds, when its calls fail with the error of that
check and change nothing, or succeed. -/
theorem Refuses.of_check {α : Type} {check : Request σ ρ → Except AudioError α}
    {fault : Request σ ρ → AudioError → Prop}
    (finds : ∀ r error, check r = .error error ↔ fault r error)
    (ends : ∀ (e : ε) (r : Request σ ρ),
      (∃ error, check r = .error error ∧ (call e r).answer = .refused e r.outputs error) ∨
      ∃ checked, check r = .ok checked ∧ (call e r).answer.result = .ok ()) : Refuses ε fault := by
  have untouched : ∀ (e : ε) (r : Request σ ρ) error, (call e r).answer.result = .error error →
      (call e r).answer.outputs = r.outputs ∧ (call e r).answer.effect = e := by
    intro e r error failed
    obtain ⟨_, -, refused⟩ | ⟨_, -, ok⟩ := ends e r
    · rw [refused]
      exact ⟨rfl, rfl⟩
    · cases ok.symm.trans failed
  refine ⟨fun e r error => ?_, untouched,
    fun e uses => outcomes_withoutFailures (fun e r error failed => (untouched e r error failed).2) uses e⟩
  rw [← finds]
  obtain ⟨_, found, refused⟩ | ⟨_, found, ok⟩ := ends e r
  · rw [found, refused]
    show Except.error _ = _ ↔ _
    rw [Except.error.injEq, Except.error.injEq]
  · rw [found, ok]
    exact ⟨nofun, nofun⟩

end BufferEffect

open BufferEffect (Refuses)

/-! ## The three effects -/

/-- What is wrong with a call on the tone. A missing output channel counts only at a usable rate. -/
inductive Tone.Fault {σ ρ : Type} [Zero ρ] [LT ρ] [RealNumber ρ] (r : Request σ ρ) : AudioError → Prop
  | rate (unusable : ¬(RealNumber.isFinite r.rate = true ∧ 0 < r.rate)) :
    Fault r (.configuration (.sampleRate (RealNumber.shown r.rate)))
  | noOutputs (usable : RealNumber.isFinite r.rate = true ∧ 0 < r.rate) (none : r.outputs = []) :
    Fault r (.input .noOutputChannels)

theorem Tone.requested_eq_error_iff {σ ρ : Type} [Zero ρ] [LT ρ] [DecidableLT ρ] [RealNumber ρ]
    (r : Request σ ρ) (error : AudioError) : requested r.outputs r.rate = .error error ↔ Fault r error := by
  by_cases usable : RealNumber.isFinite r.rate = true ∧ 0 < r.rate
  · have checked : Audio.ensureSampleRate r.rate = .ok () := by
      unfold Audio.ensureSampleRate
      rw [if_pos (by simpa using usable)]
    have asked : requested r.outputs r.rate = Audio.firstOutputLength r.outputs := by
      unfold requested
      rw [checked]
      rfl
    rw [asked]
    cases outputs : r.outputs with
    | nil =>
      constructor
      · rintro ⟨⟩
        exact .noOutputs usable outputs
      · rintro (unusable | _)
        · exact absurd usable unusable
        · rfl
    | cons channel rest =>
      constructor
      · rintro ⟨⟩
      · rintro (unusable | ⟨-, none⟩)
        · exact absurd usable unusable
        · cases outputs.symm.trans none
  · have refused : requested r.outputs r.rate = .error (.configuration (.sampleRate (RealNumber.shown r.rate))) := by
      unfold requested Audio.ensureSampleRate
      rw [if_neg (by simpa using usable)]
      rfl
    rw [refused]
    constructor
    · rintro ⟨⟩
      exact .rate usable
    · rintro (_ | ⟨accepted, -⟩)
      · rfl
      · exact absurd accepted usable

section Each

variable {σ ρ : Type} [Mul ρ] [Neg ρ] [Zero ρ] [One ρ] [NatCast ρ] [Sample ρ σ]

theorem SpectralRoundTrip.refuses [Add ρ] [Sub ρ] [Div ρ] [Circular ρ] :
    Refuses (SpectralRoundTrip ρ) fun r => Audio.InputFault ρ r.inputs :=
  .of_check (fun _ _ => Audio.acceptedInput_eq_error_iff) fun e r =>
    (call_cases e r).imp_right fun ⟨input, accepted, ended⟩ => ⟨input, accepted, by rw [ended]; rfl⟩

theorem WaveletRoundTrip.refuses [Add ρ] [Sub ρ] :
    Refuses (WaveletRoundTrip ρ) fun r => Audio.InputFault ρ r.inputs :=
  .of_check (fun _ _ => Audio.acceptedInput_eq_error_iff) fun e r =>
    (call_cases e r).imp_right fun ⟨input, accepted, _, _, ended⟩ => ⟨input, accepted, by rw [ended]; rfl⟩

theorem Tone.refuses [Div ρ] [LT ρ] [DecidableLT ρ] [RealNumber ρ] [Circular ρ] : Refuses (Tone ρ) Fault :=
  .of_check requested_eq_error_iff fun e r =>
    (call_cases e r).imp_right fun ⟨length, accepted, ended⟩ => ⟨length, accepted, by rw [ended]; rfl⟩

end Each

variable {σ ρ : Type} [Add ρ] [Sub ρ] [Mul ρ] [Div ρ] [Neg ρ] [Zero ρ] [One ρ] [NatCast ρ]
  [LT ρ] [DecidableLT ρ] [RealNumber ρ] [Circular ρ] [Sample ρ σ]

/-- The three effects, in any state and with any numbers, so in every state that calls and resets can
make of a new one. The transforming effects refuse a missing, an empty and a not finite first channel,
in this order, and the tone an unusable rate and then a missing output. Nothing else fails, not the
transforms either, which go through for every channel that was accepted. -/
theorem effects_refuse :
    Refuses (SpectralRoundTrip ρ) (fun r : Request σ ρ => Audio.InputFault ρ r.inputs) ∧
    Refuses (WaveletRoundTrip ρ) (fun r : Request σ ρ => Audio.InputFault ρ r.inputs) ∧
    Refuses (Tone ρ) (Tone.Fault : Request σ ρ → AudioError → Prop) ∧
    ∀ (inputs : List (Array σ)) (input : Array σ), Audio.acceptedInput ρ inputs = .ok input →
      (∀ e : SpectralRoundTrip ρ, ∃ (bins signal : Array (Complex ρ)) (later : Spectrum.Processor),
        (e.processor.forward input).value = (.ok bins, later) ∧ (later.inverse bins).value.1 = .ok signal) ∧
      (∀ e : WaveletRoundTrip ρ, ∃ bands signal,
        Wavelet.decompose e.bank e.mode (input.map (Sample.widen : σ → ρ)) = .ok bands ∧
        Wavelet.reconstruct e.bank bands = .ok signal) := by
  refine ⟨SpectralRoundTrip.refuses, WaveletRoundTrip.refuses, Tone.refuses, fun inputs input accepted => ?_⟩
  have nonempty : 0 < input.size := by
    obtain ⟨_, -, refused⟩ | ⟨_, _, -, nonempty, -, same⟩ := Audio.acceptedInput_cases (ρ := ρ) inputs
    · cases accepted.symm.trans refused
    · cases accepted.symm.trans same
      exact nonempty
  refine ⟨fun e => ?_, fun e => Wavelet.exists_reconstruction e.bank e.mode _ (by simpa using nonempty)⟩
  exact ⟨_, _, _, e.processor.value_forward nonempty,
    congrArg Prod.fst (Spectrum.Processor.value_inverse _ (by simpa using nonempty))⟩

/-- A channel whose third sample is not a number and whose fourth is infinite, and a tone asked for at
rate zero and for no output: each call names the fault that comes first. -/
theorem effects_refuse_first_fault :
    (call (WaveletRoundTrip.new Wavelet.db2 : Logged (WaveletRoundTrip Float)).value
        ⟨[#[1, 2, 0 / 0, 1 / 0], #[]], [#[9]], 0⟩).answer.result =
      .error (.transform (.nonFinite (Sample.shown Float (0 / 0 : Float32)) 2)) ∧
    (call (WaveletRoundTrip.new Wavelet.db2 : Logged (WaveletRoundTrip Float)).value
        ⟨[#[1, 2, 0 / 0, 1 / 0], #[]], [#[9]], 0⟩).answer.outputs = [#[9]] ∧
    (call (Tone.atStart ToneParams.standard) (⟨[], [], 0⟩ : Request Float32 Float)).answer.result =
      .error (.configuration (.sampleRate 0)) := by
  obtain ⟨-, wavelet, tone, -⟩ := effects_refuse (ρ := Float) (σ := Float32)
  have fault : Audio.InputFault Float [#[1, 2, 0 / 0, 1 / 0], #[]] _ :=
    .nonFinite [#[]] 2 (by decide) (by decide +kernel) (by decide +kernel)
  have refused := (wavelet.fails_iff (WaveletRoundTrip.new Wavelet.db2).value
    ⟨[#[1, 2, 0 / 0, 1 / 0], #[]], [#[9]], 0⟩ _).mpr fault
  refine ⟨refused, (wavelet.untouched _ _ _ refused).1, ?_⟩
  exact (tone.fails_iff (Tone.atStart ToneParams.standard) ⟨[], [], 0⟩ _).mpr (.rate (by decide +kernel))

end BufferScope
