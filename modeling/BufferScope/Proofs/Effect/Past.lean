/-
What the past of an effect comes down to. The call that succeeded last and the resets since decide the
state of a transforming effect, of which only the length that the processor planned for outlives a reset;
the tone adds its cursor and its envelope.
-/
import BufferScope.Proofs.Effect.Refusal

namespace BufferScope

open BufferEffect (call used)

/-- The number of samples in the first input channel. -/
def Request.heard {σ ρ : Type} (r : Request σ ρ) : Nat := (r.inputs.head?.map Array.size).getD 0

/-- The input that is accepted is the first channel. -/
theorem Request.heard_of_accepted {σ ρ : Type} [Sample ρ σ] {r : Request σ ρ} {input : Array σ}
    (accepted : Audio.acceptedInput ρ r.inputs = .ok input) : r.heard = input.size ∧ 0 < input.size := by
  obtain ⟨_, -, refused⟩ | ⟨channel, rest, inputs, nonempty, -, same⟩ :=
    Audio.acceptedInput_cases (ρ := ρ) r.inputs
  · cases accepted.symm.trans refused
  · cases accepted.symm.trans same
    unfold heard
    rw [inputs]
    exact ⟨rfl, nonempty⟩

/-- An effect after a history of uses, with the calls of it that matter. -/
structure Past (ε σ ρ : Type) where
  effect : ε
  /-- The call that succeeded last. -/
  latest : Option (Call ε σ ρ) := none
  /-- The call that succeeded last, if there was no reset since. -/
  standing : Option (Call ε σ ρ) := none

namespace BufferEffect

variable {ε σ ρ : Type} [BufferEffect ε σ ρ]

/-- The past with one more use. -/
def extended (p : Past ε σ ρ) : Use σ ρ → Past ε σ ρ
  | .call r =>
    let c := call p.effect r
    if c.succeeded then ⟨c.answer.effect, some c, some c⟩ else { p with effect := c.answer.effect }
  | .reset => ⟨reset p.effect, p.latest, none⟩

/-- The past of an effect that was new before the history. -/
def past (new : ε) (history : List (Use σ ρ)) : Past ε σ ρ := history.foldl extended ⟨new, none, none⟩

theorem effect_extended (p : Past ε σ ρ) (u : Use σ ρ) : (extended p u).effect = (use p.effect u).effect := by
  cases u with
  | reset => rfl
  | call r =>
    unfold extended
    dsimp only
    split
    · rfl
    · rfl

theorem effect_past (new : ε) (history : List (Use σ ρ)) : (past new history).effect = used new history := by
  unfold past used
  induction history using List.reverseRecOn with
  | nil => rfl
  | append_singleton history u ih =>
    rw [List.foldl_append, List.foldl_append, List.foldl_cons, List.foldl_cons, List.foldl_nil, List.foldl_nil,
      effect_extended, ih]

/-- What holds of a new effect, and what calls that succeed and resets keep, holds after every history,
if the calls that fail leave the effect alone. -/
theorem past_induction {fault : Request σ ρ → AudioError → Prop} (refuses : Refuses ε fault)
    {keeps : Past ε σ ρ → Prop} {new : ε} (start : keeps ⟨new, none, none⟩)
    (accepted : ∀ (p : Past ε σ ρ) (r : Request σ ρ), keeps p → (call p.effect r).succeeded = true →
      keeps ⟨(call p.effect r).answer.effect, some (call p.effect r), some (call p.effect r)⟩)
    (fresh : ∀ p : Past ε σ ρ, keeps p → keeps ⟨reset p.effect, p.latest, none⟩)
    (history : List (Use σ ρ)) :
    keeps (past new history) := by
  unfold past
  induction history using List.reverseRecOn with
  | nil => exact start
  | append_singleton history u ih =>
    rw [List.foldl_append, List.foldl_cons, List.foldl_nil]
    generalize history.foldl extended ⟨new, none, none⟩ = p at ih ⊢
    cases u with
    | reset => exact fresh p ih
    | call r =>
      unfold extended
      dsimp only
      split
      · rename_i ok
        exact accepted p r ih ok
      · rename_i failed
        have same : (call p.effect r).answer.effect = p.effect := by
          rcases ended : (call p.effect r).answer.result with error | _
          · exact (refuses.untouched p.effect r error ended).2
          · exact absurd (by rw [Call.succeeded, ended]; rfl) failed
        rw [same]
        exact ih

end BufferEffect

open BufferEffect (past past_induction)

/-! ## The three effects -/

section Transforming

variable {σ ρ : Type} [Add ρ] [Sub ρ] [Mul ρ] [Neg ρ] [Zero ρ] [One ρ] [NatCast ρ] [Sample ρ σ]

/-- The processor knows the length of the last call that succeeded. The rest is that of a new effect, or
what the standing call left. -/
structure SpectralRoundTrip.Remembers [Div ρ] [Circular ρ] (p : Past (SpectralRoundTrip ρ) σ ρ) : Prop where
  planned : p.effect.processor.plannedLength = (p.latest.map (·.request.heard)).getD 0
  buffers : (p.standing = none ∧ p.effect = { processor := p.effect.processor }) ∨
    ∃ c input, p.standing = some c ∧ Audio.acceptedInput ρ c.request.inputs = .ok input ∧
      p.effect = heard ρ input

theorem SpectralRoundTrip.remembers [Div ρ] [Circular ρ] (history : List (Use σ ρ)) :
    Remembers (past (new : Logged (SpectralRoundTrip ρ)).value history) := by
  refine past_induction refuses ⟨rfl, .inl ⟨rfl, rfl⟩⟩ (fun p r _ ok => ?_) (fun p kept => ?_) history
  · obtain ⟨_, -, ended⟩ | ⟨input, accepted, ended⟩ := call_cases p.effect r
    · rw [Call.succeeded, ended] at ok
      cases ok
    · refine ⟨?_, .inr ⟨_, input, rfl, accepted, by rw [ended]; rfl⟩⟩
      rw [ended, Option.map_some, show (call p.effect r).request.heard = _ from
        (Request.heard_of_accepted accepted).1]
      rfl
  · exact ⟨kept.planned, .inl ⟨rfl, rfl⟩⟩

/-- The bank and the mode stay. The rest is that of a new effect, or what the standing call left. -/
structure WaveletRoundTrip.Remembers (bank : Wavelet.FilterBank ρ) (p : Past (WaveletRoundTrip ρ) σ ρ) : Prop where
  sameBank : p.effect.bank = bank
  sameMode : p.effect.mode = .smooth
  buffers : (p.standing = none ∧ p.effect = { bank, mode := .smooth }) ∨
    ∃ c input bands, p.standing = some c ∧ Audio.acceptedInput ρ c.request.inputs = .ok input ∧
      Wavelet.decompose bank .smooth (input.map (Sample.widen : σ → ρ)) = .ok bands ∧
      p.effect = heard { bank, mode := .smooth } input bands

theorem WaveletRoundTrip.remembers (bank : Wavelet.FilterBank ρ) (history : List (Use σ ρ)) :
    Remembers bank (past (new bank).value history) := by
  refine past_induction refuses ⟨rfl, rfl, .inl ⟨rfl, rfl⟩⟩ (fun p r kept ok => ?_) (fun p kept => ?_) history
  · have config := config_call p.effect r
    refine ⟨config.1.trans kept.sameBank, config.2.trans kept.sameMode, ?_⟩
    obtain ⟨_, -, ended⟩ | ⟨input, accepted, bands, split, ended⟩ := call_cases p.effect r
    · rw [Call.succeeded, ended] at ok
      cases ok
    · rw [kept.sameBank, kept.sameMode] at split
      refine .inr ⟨_, input, bands, rfl, accepted, split, ?_⟩
      rw [ended, passed, heard, kept.sameBank, kept.sameMode]
      rfl
  · refine ⟨kept.sameBank, kept.sameMode, .inl ⟨rfl, ?_⟩⟩
    show ({ bank := p.effect.bank, mode := p.effect.mode } : WaveletRoundTrip ρ) = _
    rw [kept.sameBank, kept.sameMode]

end Transforming

section Tone

variable {σ ρ : Type} [Mul ρ] [Div ρ] [Neg ρ] [Zero ρ] [One ρ] [NatCast ρ] [LT ρ] [DecidableLT ρ]
  [RealNumber ρ] [Circular ρ] [Sample ρ σ]

/-- The parameters stay. There are no samples, or as many as the standing call asked for. -/
structure Tone.Remembers (params : ToneParams ρ) (p : Past (Tone ρ) σ ρ) : Prop where
  sameParams : p.effect.params = params
  buffers : (p.standing = none ∧ p.effect.samples = #[]) ∨
    ∃ c, p.standing = some c ∧ p.effect.samples.size = c.frames

theorem Tone.remembers (params : ToneParams ρ) (history : List (Use σ ρ)) :
    Remembers params (past (atStart params) history) := by
  refine past_induction refuses ⟨rfl, .inl ⟨rfl, rfl⟩⟩ (fun p r kept ok => ?_) (fun p kept => ?_) history
  · have answer := call_of_succeeded ok
    refine ⟨?_, .inr ⟨_, rfl, ?_⟩⟩
    · rw [answer]
      exact kept.sameParams
    · show (call p.effect r).answer.effect.samples.size = (call p.effect r).frames
      rw [answer]
      exact Array.size_ofFn
  · exact ⟨kept.sameParams, .inl ⟨rfl, rfl⟩⟩

end Tone

end BufferScope
