/-
The calls that a run makes on its effect, as an effect that records them sees them. Recording does
not change what the run answers.
-/
import BufferScope.Proofs.Effect.Recorder
import BufferScope.Proofs.Host.Drive

namespace BufferScope

variable {φ ε σ ρ : Type} [Screen φ] [BufferEffect ε σ ρ]
variable [Add ρ] [Sub ρ] [Mul ρ] [Div ρ] [Neg ρ] [Zero ρ] [One ρ] [NatCast ρ] [IntCast ρ]
  [LT ρ] [DecidableLT ρ] [BEq ρ] [RealNumber ρ]

namespace Pass

/-- The calls of a drive, up to the first failure. -/
def made (p : Pass φ ε σ) : List (Request σ ρ) → List (Call ε σ ρ)
  | [] => []
  | r :: rest => BufferEffect.call p.effect r ::
    match p.turn r with
    | (.error _, _) => []
    | (.ok (), p) => p.made rest

theorem made_cons (p : Pass φ ε σ) (r : Request σ ρ) (rest : List (Request σ ρ)) :
    p.made (r :: rest) = BufferEffect.call p.effect r :: match p.turn r with
      | (.error _, _) => []
      | (.ok (), p) => p.made rest := rfl

/-- The run under way without its record. -/
def unrecorded (p : Pass φ (Recorder ε σ ρ) σ) : Pass φ ε σ := ⟨p.host, p.effect.effect, p.rendered⟩

/-- A scope shows an effect that records as it shows the effect inside. -/
theorem refresh_unrecorded (p : Pass φ (Recorder ε σ ρ) σ) :
    p.unrecorded.refresh.value = (p.refresh.value.1, p.refresh.value.2.unrecorded) := by
  rcases p with ⟨⟨settings, scope, buffers, _, _, _⟩, effect, rendered⟩
  cases scope with
  | none => rfl
  | some scope => rfl

/-- A buffer ends for an effect that records as for the effect inside, with one call more on record. -/
theorem turn_unrecorded (p : Pass φ (Recorder ε σ ρ) σ) (r : Request σ ρ) :
    p.unrecorded.turn r = ((p.turn r).1, (p.turn r).2.unrecorded) ∧
      (p.turn r).2.effect.calls = p.effect.calls ++ [BufferEffect.call p.effect.effect r] := by
  have kept := (value_refresh (p.called r)).1
  have inner : (p.unrecorded.called r).refresh.value = _ := refresh_unrecorded (p.called r)
  obtain ⟨error, failed, ended⟩ | ⟨error, after, processed, shown, ended⟩ |
      ⟨after, processed, shown, ended⟩ := turn_cases p r
  · rw [ended, turn_of_failed (p := p.unrecorded) failed]
    exact ⟨rfl, rfl⟩
  · rw [shown] at inner kept
    rw [ended, turn_of_unshown (p := p.unrecorded) processed inner]
    exact ⟨rfl, congrArg Recorder.calls kept⟩
  · rw [shown] at inner kept
    rw [ended, turn_of_shown (p := p.unrecorded) processed inner]
    exact ⟨rfl, congrArg Recorder.calls kept⟩

/-- A drive ends for an effect that records as for the effect inside, with the calls of the drive on
record. -/
theorem drive_unrecorded (requests : List (Request σ ρ)) : ∀ p : Pass φ (Recorder ε σ ρ) σ,
    p.unrecorded.drive requests = ((p.drive requests).1, (p.drive requests).2.unrecorded) ∧
      (p.drive requests).2.effect.calls = p.effect.calls ++ p.unrecorded.made requests := by
  -- Both drives stop at the same buffer, since a call and a frame end alike with and without a record.
  induction requests with
  | nil => exact fun p => ⟨rfl, (List.append_nil _).symm⟩
  | cons r rest ih =>
    intro p
    obtain ⟨ended, record⟩ := turn_unrecorded p r
    rw [drive_cons, drive_cons, made_cons, ended]
    generalize p.turn r = turned at record ⊢
    rcases turned with ⟨error | _, after⟩
    · exact ⟨rfl, record⟩
    · obtain ⟨driven, recorded⟩ := ih after
      refine ⟨driven, recorded.trans ?_⟩
      simp only at record ⊢
      rw [record, List.append_assoc]
      rfl

end Pass

namespace Host

variable [Sample ρ σ]

/-- The run with an effect that records its calls. -/
def recorded (h : Host φ) (effect : ε) (inputs : List (Array σ)) (frames : Nat) :
    Rendered φ (Recorder ε σ ρ) σ :=
  (h.run (⟨effect, []⟩ : Recorder ε σ ρ) inputs frames).value

/-- The calls that a run makes. -/
def calls (h : Host φ) (effect : ε) (inputs : List (Array σ)) (frames : Nat) : List (Call ε σ ρ) :=
  (h.recorded effect inputs frames).effect.calls

/-- A run without a record answers and ends as the run with one does. -/
theorem run_eq_recorded (h : Host φ) (effect : ε) (inputs : List (Array σ)) (frames : Nat) :
    (h.run effect inputs frames).value =
      ⟨(h.recorded effect inputs frames).result, (h.recorded effect inputs frames).host,
        (h.recorded effect inputs frames).effect.effect⟩ := by
  unfold recorded
  rw [value_run, value_run]
  obtain ⟨driven, -⟩ := Pass.drive_unrecorded (h.settings.requests inputs frames)
    (h.start (⟨effect, []⟩ : Recorder ε σ ρ))
  exact congrArg Pass.conclude driven

/-- The calls of a run are those of the drive over its requests. -/
theorem calls_eq (h : Host φ) (effect : ε) (inputs : List (Array σ)) (frames : Nat) :
    h.calls effect inputs frames = (h.start effect).made (h.settings.requests inputs frames) := by
  unfold calls recorded
  rw [value_run]
  exact (Pass.drive_unrecorded (h.settings.requests inputs frames) (h.start (⟨effect, []⟩ : Recorder ε σ ρ))).2

end Host

end BufferScope
