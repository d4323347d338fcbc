/-
The frames of a run, as a screen that records them sees them, and the run of a host without a scope.
Recording does not change what a run answers, and neither does a scope whose screen takes every frame.
-/
import BufferScope.Proofs.Host.Turns

namespace BufferScope

variable {φ ε σ ρ : Type} [Screen φ] [BufferEffect ε σ ρ]
variable [Add ρ] [Sub ρ] [Mul ρ] [Div ρ] [Neg ρ] [Zero ρ] [One ρ] [NatCast ρ] [IntCast ρ]
  [LT ρ] [DecidableLT ρ] [BEq ρ] [RealNumber ρ]

/-! ## Under record -/

namespace Pass

/-- The run under way without the record of its screen. -/
def unwatched (p : Pass (ScreenRecorder φ) ε σ) : Pass φ ε σ := ⟨p.host.unwatched, p.effect, p.rendered⟩

theorem observed_unwatched (p : Pass (ScreenRecorder φ) ε σ) (r : Request σ ρ) :
    p.unwatched.observed r = p.observed r := by
  rcases p with ⟨⟨settings, _ | scope, buffers, _, _, _⟩, effect, rendered⟩
  · rfl
  · rfl

/-- Handing over a frame is the same with and without a record, and the record grows by the frame. -/
theorem showing_unwatched (p : Pass (ScreenRecorder φ) ε σ) (r : Request σ ρ) :
    ((p.called r).showing (p.observed r).blit).unwatched = (p.unwatched.called r).showing (p.observed r).blit ∧
      ((p.called r).showing (p.observed r).blit).host.blitted = p.host.blitted ++ (p.observed r).blit.toList := by
  rcases p with ⟨⟨settings, _ | scope, buffers, _, _, _⟩, effect, rendered⟩
  · have blank : (Pass.observed (⟨⟨settings, none, buffers, ‹_›, ‹_›, ‹_›⟩, effect, rendered⟩ :
        Pass (ScreenRecorder φ) ε σ) r).blit = none := by
      unfold observed
      split <;> rfl
    rw [blank]
    exact ⟨rfl, rfl⟩
  · unfold observed
    split
    · obtain ⟨same, noted⟩ := scope.showing_unwatched (BufferEffect.call effect r).answer.effect
      refine ⟨?_, noted⟩
      unfold showing unwatched Host.unwatched called
      simp only [Option.map_some, Option.bind_some, same]
    · exact ⟨rfl, (List.append_nil _).symm⟩

theorem turn_unwatched (p : Pass (ScreenRecorder φ) ε σ) (r : Request σ ρ) :
    p.unwatched.turn r = ((p.turn r).1, (p.turn r).2.unwatched) ∧
      (p.turn r).2.host.blitted = p.host.blitted ++ (p.observed r).blit.toList := by
  obtain ⟨same, noted⟩ := p.showing_unwatched r
  rw [turn_eq, turn_eq, observed_unwatched, ← same, ← noted]
  split
  · exact ⟨rfl, rfl⟩
  · exact ⟨rfl, rfl⟩

/-- A drive goes the same way with and without a record, which grows by the frames of its turns. -/
theorem drive_unwatched (requests : List (Request σ ρ)) : ∀ p : Pass (ScreenRecorder φ) ε σ,
    p.unwatched.drive requests = ((p.drive requests).1, (p.drive requests).2.unwatched) ∧
      p.unwatched.turns requests = p.turns requests ∧
      (p.drive requests).2.host.blitted = p.host.blitted ++ (p.turns requests).filterMap Turn.blit := by
  induction requests with
  | nil => exact fun p => ⟨rfl, rfl, (List.append_nil _).symm⟩
  | cons r rest ih =>
    intro p
    obtain ⟨same, noted⟩ := p.turn_unwatched r
    have observed := p.observed_unwatched r
    rcases ended : (p.observed r).result with error | _
    · obtain ⟨driven, turned⟩ := p.drive_cons_of_error r rest ended
      obtain ⟨driven', turned'⟩ := p.unwatched.drive_cons_of_error r rest (observed ▸ ended)
      rw [driven, driven', turned, turned', same, observed, noted]
      exact ⟨rfl, rfl, by simp [List.filterMap_eq_flatMap_toList]⟩
    · obtain ⟨driven, turned⟩ := p.drive_cons_of_ok r rest ended
      obtain ⟨driven', turned'⟩ := p.unwatched.drive_cons_of_ok r rest (observed ▸ ended)
      obtain ⟨ihDriven, ihTurned, ihNoted⟩ := ih (p.turn r).2
      rw [driven, driven', turned, turned', same, observed, ihNoted, noted]
      exact ⟨ihDriven, congrArg _ ihTurned, by simp [List.filterMap_eq_flatMap_toList]⟩

/-! ## Without a scope -/

/-- The run under way without its scope. -/
def unscoped (p : Pass φ ε σ) : Pass φ ε σ := { p with host := { p.host with scope := none } }

theorem turn_unscoped (p : Pass φ ε σ) (r : Request σ ρ)
    (taken : ∀ b, (p.observed r).blit = some b → b.answer = .ok ()) :
    (p.unscoped.observed r).result = (p.observed r).result ∧
      p.unscoped.turn r = ((p.turn r).1, (p.turn r).2.unscoped) := by
  have blank : p.unscoped.observed r = ⟨BufferEffect.call p.effect r, none⟩ := by
    unfold observed
    split <;> rfl
  have result : (p.unscoped.observed r).result = (p.observed r).result := by
    rw [blank]
    unfold Turn.result
    cases shown : (p.observed r).blit with
    | none => rfl
    | some b => rw [Option.map_some, Option.getD_some, taken b shown]; rfl
  refine ⟨result, ?_⟩
  rw [turn_eq, turn_eq, Turn.completed, Turn.completed, result, blank]
  split
  · rfl
  · rfl

theorem drive_unscoped (requests : List (Request σ ρ)) : ∀ p : Pass φ ε σ,
    (∀ t ∈ p.turns requests, ∀ b, t.blit = some b → b.answer = .ok ()) →
      p.unscoped.drive requests = ((p.drive requests).1, (p.drive requests).2.unscoped) := by
  induction requests with
  | nil => exact fun _ _ => rfl
  | cons r rest ih =>
    intro p taken
    rcases ended : (p.observed r).result with error | _
    · obtain ⟨driven, turned⟩ := p.drive_cons_of_error r rest ended
      obtain ⟨result, same⟩ := p.turn_unscoped r (taken _ (turned ▸ List.mem_cons_self))
      rw [driven, (p.unscoped.drive_cons_of_error r rest (result.trans ended)).1, same]
    · obtain ⟨driven, turned⟩ := p.drive_cons_of_ok r rest ended
      rw [turned] at taken
      obtain ⟨result, same⟩ := p.turn_unscoped r (taken _ List.mem_cons_self)
      rw [driven, (p.unscoped.drive_cons_of_ok r rest (result.trans ended)).1, same]
      exact ih _ fun t later => taken t (List.mem_cons_of_mem _ later)

end Pass

/-! ## A run -/

namespace Host

variable [Sample ρ σ]

/-- The turns of a run. -/
def turns (h : Host φ) (effect : ε) (inputs : List (Array σ)) (frames : Nat) : List (Turn ε σ ρ) :=
  (h.start effect).turns (h.settings.requests inputs frames)

/-- The frames that the screen of a host is handed in a run. -/
def blits (h : Host φ) (effect : ε) (inputs : List (Array σ)) (frames : Nat) : List Blit :=
  (h.watched.run effect inputs frames).value.host.blitted

theorem calls_eq_turns (h : Host φ) (effect : ε) (inputs : List (Array σ)) (frames : Nat) :
    h.calls effect inputs frames = (h.turns effect inputs frames).map Turn.call := by
  rw [calls_eq, Pass.made_eq_turns]
  rfl

/-- A run whose screen is under record answers as the run itself, and the record holds the frames of
its turns. -/
theorem run_eq_watched (h : Host φ) (effect : ε) (inputs : List (Array σ)) (frames : Nat) :
    (h.run effect inputs frames).value =
        ⟨(h.watched.run effect inputs frames).value.result,
          (h.watched.run effect inputs frames).value.host.unwatched,
          (h.watched.run effect inputs frames).value.effect⟩ ∧
      h.blits effect inputs frames = (h.turns effect inputs frames).filterMap Turn.blit := by
  have start : (h.watched.start effect : Pass (ScreenRecorder φ) ε σ).unwatched = h.start effect := by
    unfold start Pass.unwatched
    rw [h.unwatched_watched]
    rfl
  obtain ⟨driven, turned, noted⟩ := Pass.drive_unwatched (h.settings.requests inputs frames)
    (h.watched.start effect : Pass (ScreenRecorder φ) ε σ)
  rw [start] at driven turned
  unfold blits turns
  rw [value_run, value_run, driven, turned]
  exact ⟨rfl,
    noted.trans (by rw [show (h.watched.start effect : Pass (ScreenRecorder φ) ε σ).host = h.watched from rfl,
    h.blitted_watched, List.nil_append])⟩

/-- A screen that takes whatever it is handed takes every frame of a run. -/
theorem answer_of_mem_blits (steady : ∀ (screen : φ) frame, (Screen.blit screen frame).value.1 = .ok ())
    (h : Host φ) (effect : ε) (inputs : List (Array σ)) (frames : Nat) :
    ∀ b ∈ h.blits effect inputs frames, b.answer = .ok () := by
  rw [(h.run_eq_watched effect inputs frames).2]
  intro b handed
  obtain ⟨t, member, shown⟩ := List.mem_filterMap.mp handed
  obtain ⟨before, r, rfl⟩ := Pass.mem_turns _ _ t member
  unfold Pass.observed at shown
  split at shown
  · obtain ⟨scope, -, blit⟩ := Option.bind_eq_some_iff.mp shown
    unfold Scope.blit? at blit
    obtain ⟨frame, -, rfl⟩ := Option.map_eq_some_iff.mp blit
    exact steady scope.screen frame
  · cases shown

/-- The host without its scope. -/
def unscoped (h : Host φ) : Host φ := { h with scope := none }

/-- A run on which the screen took every frame answers, and leaves the effect, as a run without a
scope. -/
theorem run_unscoped (h : Host φ) (effect : ε) (inputs : List (Array σ)) (frames : Nat)
    (taken : ∀ t ∈ h.turns effect inputs frames, ∀ b, t.blit = some b → b.answer = .ok ()) :
    (h.unscoped.run effect inputs frames).value =
      ⟨(h.run effect inputs frames).value.result, (h.run effect inputs frames).value.host.unscoped,
        (h.run effect inputs frames).value.effect⟩ := by
  rw [value_run, value_run]
  exact congrArg Pass.conclude (Pass.drive_unscoped _ (h.start effect) taken)

end Host

end BufferScope
