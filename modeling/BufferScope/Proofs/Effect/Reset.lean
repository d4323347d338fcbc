/-
Resets. After a reset an effect answers every continuation as a new one does, down to what it logs. Of
the spectral round trip the processor stays, which shows in one entry: the first call that succeeds does
not announce a length that the processor has been planned for before.
-/
import BufferScope.Proofs.Effect.Past

namespace BufferScope

open BufferEffect (call used past)

/-! ## Continuations -/

/-- One thing that can be done with an effect. -/
inductive Move (σ ρ : Type) where
  | use (u : Use σ ρ)
  | plot
  | read

/-- What comes back from a move, where reading an effect gives a `ν`. -/
inductive Reply (ν σ ρ : Type) where
  | ended (result : Except AudioError Unit) (outputs : List (Array σ))
  | cleared
  | plotted (shown : Option (Plot ρ))
  | seen (values : ν)

/-- Whether the reply is that of a call that succeeded. -/
def Reply.succeeded {ν σ ρ : Type} : Reply ν σ ρ → Bool
  | .ended result _ => result.isOk
  | _ => false

/-- What comes back from a move, and what is logged on the way. -/
structure Response (ν σ ρ : Type) where
  reply : Reply ν σ ρ
  entries : List LogEntry

namespace BufferEffect

variable {ε ν σ ρ : Type} [BufferEffect ε σ ρ]

def respond (view : ε → ν) (e : ε) : Move σ ρ → Response ν σ ρ
  | .use (.call r) => ⟨.ended (call e r).answer.result (call e r).answer.outputs,
      (process e r.inputs r.outputs r.rate).entries⟩
  | .use .reset => ⟨.cleared, []⟩
  | .plot => ⟨.plotted (plot e), []⟩
  | .read => ⟨.seen (view e), []⟩

/-- The effect after a move. Plotting and reading change nothing. -/
def moved (e : ε) : Move σ ρ → ε
  | .use u => (use e u).effect
  | .plot => e
  | .read => e

/-- What comes back from a continuation, one move after the other. -/
def responses (view : ε → ν) (e : ε) : List (Move σ ρ) → List (Response ν σ ρ)
  | [] => []
  | m :: rest => respond view e m :: responses view (moved e m) rest

end BufferEffect

open BufferEffect (respond moved responses)

/-! ## The tone and the wavelet round trip -/

section Renewed

variable {σ ρ : Type} [Mul ρ] [Neg ρ] [Zero ρ] [One ρ] [NatCast ρ] [Sample ρ σ]

theorem Tone.reset_used [Div ρ] [LT ρ] [DecidableLT ρ] [RealNumber ρ] [Circular ρ] (params : ToneParams ρ)
    (history : List (Use σ ρ)) : BufferEffect.reset (used (atStart params) history) = atStart params := by
  have kept := (remembers params history).sameParams
  rw [BufferEffect.effect_past] at kept
  exact congrArg atStart kept

theorem WaveletRoundTrip.reset_used [Add ρ] [Sub ρ] (bank : Wavelet.FilterBank ρ) (history : List (Use σ ρ)) :
    BufferEffect.reset (used (new bank).value history) = (new bank).value := by
  have kept := remembers bank history
  have sameBank := kept.sameBank
  have sameMode := kept.sameMode
  rw [BufferEffect.effect_past] at sameBank sameMode
  show ({ bank := (used (new bank).value history).bank, mode := _ } : WaveletRoundTrip ρ) = _
  rw [sameBank, sameMode]
  rfl

end Renewed

/-! ## The spectral round trip -/

namespace SpectralRoundTrip

open Spectrum.Processor (planning)

/-- What the accessors of a spectral round trip give. -/
def view {ρ : Type} (e : SpectralRoundTrip ρ) : Array (Complex ρ) × Array ρ := (e.spectrum, e.reconstruction)

/-- Two runs of responses to one continuation, the second of an effect that has been planned for a
length. They agree but for one entry at the first call that succeeds. -/
inductive AgreeButForPlanning {ν σ ρ : Type} (planned : Option Nat) :
    List (Move σ ρ) → (xs ys : List (Response ν σ ρ)) → Prop
  | done : AgreeButForPlanning planned [] [] []
  | step (m : Move σ ρ) (x : Response ν σ ρ) (unsuccessful : x.reply.succeeded = false) {rest : List (Move σ ρ)}
    {xs ys : List (Response ν σ ρ)} (agree : AgreeButForPlanning planned rest xs ys) :
    AgreeButForPlanning planned (m :: rest) (x :: xs) (x :: ys)
  | success (r : Request σ ρ) (rest : List (Move σ ρ)) (outputs : List (Array σ)) (entries : List LogEntry)
    (later : List (Response ν σ ρ)) :
    AgreeButForPlanning planned (.use (.call r) :: rest)
      (⟨.ended (.ok ()) outputs, planning r.heard :: entries⟩ :: later)
      (⟨.ended (.ok ()) outputs, (if planned = some r.heard then [] else [planning r.heard]) ++ entries⟩ :: later)

theorem AgreeButForPlanning.replies {ν σ ρ : Type} {planned : Option Nat} {moves : List (Move σ ρ)}
    {xs ys : List (Response ν σ ρ)} (agree : AgreeButForPlanning planned moves xs ys) :
    ys.map Response.reply = xs.map Response.reply := by
  induction agree with
  | done => rfl
  | step m x unsuccessful agree ih => rw [List.map_cons, List.map_cons, ih]
  | success r rest outputs entries later => rfl

variable {σ ρ : Type} [Add ρ] [Sub ρ] [Mul ρ] [Div ρ] [Neg ρ] [Zero ρ] [One ρ] [NatCast ρ]
  [Circular ρ] [Sample ρ σ]

/-- What an accepted call logs besides a change of the buffer length. -/
def passedEntries (r : Request σ ρ) (input : Array σ) : List LogEntry :=
  Logged.entries do
    let outputs ← Audio.fanOut r.outputs (heard ρ input).reconstruction
    log .trace "pysynth_core::domain::spectral" "Spectral round-trip processed buffer"
      [⟨"frames", .count input.size⟩, ⟨"channels", .count outputs.length⟩]

/-- A call that is refused logs nothing. An accepted call announces a change of the length at most once:
the way back has the length of the way there. -/
theorem entries_cases (e : SpectralRoundTrip ρ) (r : Request σ ρ) :
    (∃ error, Audio.acceptedInput ρ r.inputs = .error error ∧
      (BufferEffect.process e r.inputs r.outputs r.rate).entries = []) ∨
    ∃ input, Audio.acceptedInput ρ r.inputs = .ok input ∧
      (BufferEffect.process e r.inputs r.outputs r.rate).entries =
        (e.processor.planFor input.size).entries ++ passedEntries r input := by
  show (∃ error, _ ∧ (process e r.inputs r.outputs r.rate).entries = _) ∨
    ∃ input, _ ∧ (process e r.inputs r.outputs r.rate).entries = _
  unfold process
  obtain ⟨error, -, refused⟩ | ⟨input, rest, -, nonempty, -, accepted⟩ :=
    Audio.acceptedInput_cases (ρ := ρ) r.inputs
  · rw [refused]
    exact .inl ⟨error, rfl, rfl⟩
  · have bins : 0 < (Spectrum.spectrum (input.map fun s => Complex.ofReal (Sample.widen s : ρ))).size := by
      simpa using nonempty
    refine .inr ⟨input, accepted, ?_⟩
    rw [accepted]
    simp only [Logged.entries_bind, Spectrum.Processor.value_forward (ρ := ρ) e.processor nonempty,
      Spectrum.Processor.entries_forward (ρ := ρ) e.processor nonempty, Spectrum.Processor.value_inverse _ bins,
      Spectrum.Processor.entries_inverse _ bins]
    have again : ((⟨input.size⟩ : Spectrum.Processor).planFor
        (Spectrum.spectrum (input.map fun s => Complex.ofReal (Sample.widen s : ρ))).size).entries = [] := by
      rw [Spectrum.Processor.entries_planFor, if_pos (by simp)]
    rw [again, List.nil_append]
    rfl

/-- A call is refused, logs nothing and leaves the effect, or what it logs and leaves is the same for all
effects, but for the change of the length. -/
theorem respond_cases (e : SpectralRoundTrip ρ) (r : Request σ ρ) :
    (∃ error, Audio.acceptedInput ρ r.inputs = .error error ∧ moved e (.use (.call r)) = e ∧
      respond view e (.use (.call r)) = ⟨.ended (.error error) r.outputs, []⟩) ∨
    ∃ input, Audio.acceptedInput ρ r.inputs = .ok input ∧ moved e (.use (.call r)) = heard ρ input ∧
      respond view e (.use (.call r)) = ⟨.ended (.ok ()) (passed r input).outputs,
        (e.processor.planFor input.size).entries ++ passedEntries r input⟩ := by
  show (∃ error, _ ∧ (call e r).answer.effect = e ∧ (⟨.ended _ _, _⟩ : Response _ σ ρ) = _) ∨
    ∃ input, _ ∧ (call e r).answer.effect = _ ∧ (⟨.ended _ _, _⟩ : Response _ σ ρ) = _
  obtain ⟨error, refused, ended⟩ | ⟨input, accepted, ended⟩ := call_cases e r
  · obtain ⟨_, -, logged⟩ | ⟨_, accepted, -⟩ := entries_cases e r
    · rw [ended, logged]
      exact .inl ⟨error, refused, rfl, rfl⟩
    · cases refused.symm.trans accepted
  · obtain ⟨_, refused, -⟩ | ⟨_, same, logged⟩ := entries_cases e r
    · cases accepted.symm.trans refused
    · cases accepted.symm.trans same
      rw [ended, logged]
      exact .inr ⟨input, accepted, rfl, rfl⟩

/-- Effects that hold the same buffers, of which the first has a processor that was never planned, answer
alike but for what the processor of the second announces. -/
theorem agreeButForPlanning (e e' : SpectralRoundTrip ρ) (continuation : List (Move σ ρ))
    (unplanned : e.processor.plannedLength = 0) (same : e' = { e with processor := e'.processor })
    {planned : Option Nat} (length : e'.processor.plannedLength = planned.getD 0) :
    AgreeButForPlanning planned continuation (responses view e continuation) (responses view e' continuation) := by
  -- The two meet every move with the same buffers and with the processors they started with, until a call
  -- succeeds. That call leaves one and the same effect, whatever it met.
  induction continuation generalizing e e' with
  | nil => exact .done
  | cons m rest ih =>
    cases m with
    | plot =>
      have shown : respond view e (.plot : Move σ ρ) = respond view e' .plot := by
        show (⟨.plotted (plot e), []⟩ : Response _ σ ρ) = ⟨.plotted (plot e'), []⟩
        rw [same]
        rfl
      unfold responses
      rw [← shown]
      exact .step _ _ rfl (ih _ _ unplanned same length)
    | read =>
      have seen : respond view e (.read : Move σ ρ) = respond view e' .read := by
        show (⟨.seen (view e), []⟩ : Response _ σ ρ) = ⟨.seen (view e'), []⟩
        rw [same]
        rfl
      unfold responses
      rw [← seen]
      exact .step _ _ rfl (ih _ _ unplanned same length)
    | use u =>
      cases u with
      | reset => exact .step _ _ rfl (ih _ _ unplanned rfl length)
      | call r =>
        unfold responses
        obtain ⟨error, refused, left, answer⟩ | ⟨input, accepted, left, answer⟩ := respond_cases e r
        · obtain ⟨_, refused', left', answer'⟩ | ⟨_, accepted, -⟩ := respond_cases e' r
          · cases refused.symm.trans refused'
            rw [left, left', answer, answer']
            exact .step _ _ rfl (ih _ _ unplanned same length)
          · cases refused.symm.trans accepted
        · obtain ⟨_, refused, -⟩ | ⟨_, accepted', left', answer'⟩ := respond_cases e' r
          · cases accepted.symm.trans refused
          · cases accepted.symm.trans accepted'
            obtain ⟨size, positive⟩ := Request.heard_of_accepted accepted
            have unknown : e.processor.plannedLength = (none : Option Nat).getD 0 := unplanned
            have first : (e.processor.planFor r.heard).entries = [planning r.heard] :=
              Spectrum.Processor.entries_planFor_of_planned unknown (size ▸ positive)
            rw [left, left', answer, answer', ← size, first,
              Spectrum.Processor.entries_planFor_of_planned length (size ▸ positive)]
            exact .success r rest _ _ _

end SpectralRoundTrip

/-! ## After a reset -/

section Reset

variable {σ ρ : Type} [Add ρ] [Sub ρ] [Mul ρ] [Div ρ] [Neg ρ] [Zero ρ] [One ρ] [NatCast ρ]
  [LT ρ] [DecidableLT ρ] [RealNumber ρ] [Circular ρ] [Sample ρ σ]

/-- After any history of calls, failed ones among them, and resets, an effect that is reset goes through
every continuation of calls, plots, readings and resets as a new one does: with the same results, outputs,
plots and readings, and the same log. In the log of a spectral round trip one entry can be missing, the
one with which the first call that succeeds announces its length. It is missing if and only if the last
call that succeeded before had this length. -/
theorem reset_renews (history : List (Use σ ρ)) (continuation : List (Move σ ρ)) :
    (∀ params : ToneParams ρ, responses id (BufferEffect.reset (used (Tone.new params).value history)) continuation =
      responses id (Tone.new params).value continuation) ∧
    (∀ bank : Wavelet.FilterBank ρ,
      responses id (BufferEffect.reset (used (WaveletRoundTrip.new bank).value history)) continuation =
        responses id (WaveletRoundTrip.new bank).value continuation) ∧
    let new : SpectralRoundTrip ρ := SpectralRoundTrip.new.value
    let renewed := BufferEffect.reset (used new history)
    (responses SpectralRoundTrip.view renewed continuation).map Response.reply =
      (responses SpectralRoundTrip.view new continuation).map Response.reply ∧
    SpectralRoundTrip.AgreeButForPlanning ((past new history).latest.map (·.request.heard)) continuation
      (responses SpectralRoundTrip.view new continuation) (responses SpectralRoundTrip.view renewed continuation) := by
  refine ⟨fun params => ?_, fun bank => ?_, ?_⟩
  · show responses id (BufferEffect.reset (used (Tone.atStart params) history)) continuation = _
    rw [Tone.reset_used]
    rfl
  · rw [WaveletRoundTrip.reset_used]
  · have planned := (SpectralRoundTrip.remembers (ρ := ρ) history).planned
    rw [BufferEffect.effect_past] at planned
    have agree := SpectralRoundTrip.agreeButForPlanning SpectralRoundTrip.new.value
      (BufferEffect.reset (used (SpectralRoundTrip.new : Logged (SpectralRoundTrip ρ)).value history))
      continuation rfl rfl planned
    exact ⟨agree.replies, agree⟩

end Reset

end BufferScope
