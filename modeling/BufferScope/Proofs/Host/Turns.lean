/-
A run turn by turn. A turn is one buffer as an observer sees it: the call on the effect, and the
frame that the screen was handed, if it was handed one. The turns of a run say everything about how
it ends: the answer of the run is that of its last turn, and the counters count the turns that went
through. `Host.calls_eq_turns` and `Host.blits_eq_turns` say that the turns are what a recording
effect and a recording screen note down.
-/
import BufferScope.Proofs.Host.Calls
import BufferScope.Proofs.Screen.Recorder

namespace BufferScope

/-- One buffer of a run: the call on the effect, and the frame for the screen with its answer. -/
structure Turn (ε σ ρ : Type) where
  call : Call ε σ ρ
  blit : Option Blit

namespace Turn

variable {ε σ ρ : Type}

/-- How a turn ends: with the error of the call, with that of the screen, or without one. -/
def result (t : Turn ε σ ρ) : Except AudioError Unit :=
  match t.call.answer.result with
  | .error error => .error error
  | .ok () => (t.blit.map Blit.answer).getD (.ok ())

/-- Whether the buffer was processed and presented without an error. -/
def completed (t : Turn ε σ ρ) : Bool := t.result.isOk

/-- Whether the screen took a frame. -/
def presented (t : Turn ε σ ρ) : Bool := t.blit.any Blit.taken

theorem call_of_result {t : Turn ε σ ρ} (ended : t.result = .ok ()) : t.call.answer.result = .ok () := by
  unfold result at ended
  split at ended
  · cases ended
  · assumption

end Turn

variable {φ ε σ ρ : Type} [Screen φ] [BufferEffect ε σ ρ]
variable [Add ρ] [Sub ρ] [Mul ρ] [Div ρ] [Neg ρ] [Zero ρ] [One ρ] [NatCast ρ] [IntCast ρ]
  [LT ρ] [DecidableLT ρ] [BEq ρ] [RealNumber ρ]

namespace Pass

/-! ## One turn -/

/-- The turn that a request leads to. -/
def observed (p : Pass φ ε σ) (r : Request σ ρ) : Turn ε σ ρ where
  call := BufferEffect.call p.effect r
  blit :=
    if (BufferEffect.call p.effect r).succeeded then
      p.host.scope.bind fun scope => scope.blit? (BufferEffect.call p.effect r).answer.effect
    else none

/-- The run under way after its scope handed a frame to the screen, or none. -/
def showing (p : Pass φ ε σ) (blit : Option Blit) : Pass φ ε σ :=
  { p with host := { p.host with scope := p.host.scope.map (·.showing blit) } }

theorem value_refresh_eq (p : Pass φ ε σ) :
    p.refresh.value =
      (((p.host.scope.bind fun scope => scope.blit? p.effect).map Blit.answer).getD (.ok ()),
        p.showing (p.host.scope.bind fun scope => scope.blit? p.effect)) := by
  rcases p with ⟨⟨settings, scope, buffers, _, _, _⟩, effect, rendered⟩
  cases scope with
  | none => rfl
  | some scope =>
    unfold refresh
    simp only [Logged.value_bind, scope.value_present effect]
    rfl

/-- Everything that a turn does: it answers as observed, leaves the effect as the call left it, hands
the observed frame to the screen, and counts and joins the buffer if it was completed. -/
theorem turn_eq (p : Pass φ ε σ) (r : Request σ ρ) :
    p.turn r = ((p.observed r).result,
      if (p.observed r).completed then
        ((p.called r).showing (p.observed r).blit).complete (BufferEffect.call p.effect r).answer.outputs
      else (p.called r).showing (p.observed r).blit) := by
  have hidden : p.called r = (p.called r).showing none := by
    rcases p with ⟨⟨settings, _ | scope, buffers, _, _, _⟩, effect, rendered⟩ <;> rfl
  have shown := (p.called r).value_refresh_eq
  cases processed : (BufferEffect.call p.effect r).answer.result with
  | error error =>
    have failed : p.observed r = ⟨BufferEffect.call p.effect r, none⟩ := by
      unfold observed Call.succeeded
      rw [processed]
      rfl
    rw [turn_of_failed processed, failed]
    unfold Turn.completed Turn.result
    rw [processed]
    exact congrArg _ hidden
  | ok _ =>
    have answered : p.observed r = ⟨BufferEffect.call p.effect r,
        p.host.scope.bind fun scope => scope.blit? (BufferEffect.call p.effect r).answer.effect⟩ := by
      unfold observed Call.succeeded
      rw [processed]
      rfl
    have result : (p.observed r).result = ((p.observed r).blit.map Blit.answer).getD (.ok ()) := by
      rw [answered]
      unfold Turn.result
      rw [processed]
    have blit : (p.called r).host.scope.bind (fun scope => scope.blit? (p.called r).effect) = (p.observed r).blit := by
      rw [answered]
      rfl
    rw [blit, ← result] at shown
    unfold Turn.completed
    rcases ended : (p.observed r).result with error | _
    · rw [ended] at shown
      exact turn_of_unshown processed shown
    · rw [ended] at shown
      exact turn_of_shown processed shown

theorem result_turn (p : Pass φ ε σ) (r : Request σ ρ) : (p.turn r).1 = (p.observed r).result := by
  rw [turn_eq]

theorem effect_turn (p : Pass φ ε σ) (r : Request σ ρ) :
    (p.turn r).2.effect = (BufferEffect.call p.effect r).answer.effect := by
  rw [turn_eq]
  split <;> rfl

theorem buffers_turn (p : Pass φ ε σ) (r : Request σ ρ) :
    (p.turn r).2.host.buffers = p.host.buffers + if (p.observed r).completed then 1 else 0 := by
  rw [turn_eq]
  split <;> rfl

theorem scope_turn (p : Pass φ ε σ) (r : Request σ ρ) :
    (p.turn r).2.host.scope = p.host.scope.map (·.showing (p.observed r).blit) := by
  rw [turn_eq]
  split <;> rfl

theorem rendered_turn (p : Pass φ ε σ) (r : Request σ ρ) :
    (p.turn r).2.rendered =
      if (p.observed r).completed then
        List.zipWith (· ++ ·) p.rendered (BufferEffect.call p.effect r).answer.outputs
      else p.rendered := by
  rw [turn_eq]
  split <;> rfl

/-- A call that leaves a plot hands its picture to the screen, and the turn ends as the screen answers. -/
theorem observed_of_plotted {p : Pass φ ε σ} {r : Request σ ρ} {scope : Scope φ} {plot : Plot ρ}
    (onScreen : p.host.scope = some scope) (processed : (BufferEffect.call p.effect r).answer.result = .ok ())
    (plotted : BufferEffect.plot (BufferEffect.call p.effect r).answer.effect = some plot) :
    ∃ frame, plot.render scope.width scope.height = .ok frame ∧
      (p.observed r).result = (Screen.blit scope.screen frame).value.1 ∧
      (p.turn r).2.host.scope = some (scope.showing (some ⟨frame, (Screen.blit scope.screen frame).value.1⟩)) := by
  obtain ⟨frame, rendered, drawn⟩ := scope.picture?_eq_some plotted
  have blit : (p.observed r).blit = some ⟨frame, (Screen.blit scope.screen frame).value.1⟩ := by
    unfold observed Call.succeeded
    rw [processed, onScreen]
    show scope.blit? _ = _
    unfold Scope.blit?
    rw [drawn]
    rfl
  refine ⟨frame, rendered, ?_, by rw [scope_turn, onScreen, blit]; rfl⟩
  unfold Turn.result
  rw [blit, show (p.observed r).call.answer.result = .ok () from processed]
  rfl

/-! ## The turns of a drive -/

/-- The turns of a drive, up to the first failure. -/
def turns (p : Pass φ ε σ) : List (Request σ ρ) → List (Turn ε σ ρ)
  | [] => []
  | r :: rest => p.observed r ::
    match p.turn r with
    | (.error _, _) => []
    | (.ok (), p) => p.turns rest

theorem turns_singleton (p : Pass φ ε σ) (r : Request σ ρ) : p.turns [r] = [p.observed r] := by
  rw [turns]
  split <;> rfl

theorem drive_cons_of_error (p : Pass φ ε σ) (r : Request σ ρ) (rest : List (Request σ ρ)) {error : AudioError}
    (failed : (p.observed r).result = .error error) :
    p.drive (r :: rest) = (.error error, (p.turn r).2) ∧ p.turns (r :: rest) = [p.observed r] := by
  rw [← result_turn] at failed
  rw [drive_cons, turns]
  generalize p.turn r = ended at failed ⊢
  rcases ended with ⟨result, after⟩
  cases failed
  exact ⟨rfl, rfl⟩

theorem drive_cons_of_ok (p : Pass φ ε σ) (r : Request σ ρ) (rest : List (Request σ ρ))
    (completed : (p.observed r).result = .ok ()) :
    p.drive (r :: rest) = (p.turn r).2.drive rest ∧
      p.turns (r :: rest) = p.observed r :: (p.turn r).2.turns rest := by
  rw [← result_turn] at completed
  rw [drive_cons, turns]
  generalize p.turn r = ended at completed ⊢
  rcases ended with ⟨result, after⟩
  cases completed
  exact ⟨rfl, rfl⟩

theorem mem_turns (requests : List (Request σ ρ)) : ∀ p : Pass φ ε σ, ∀ t ∈ p.turns requests,
    ∃ (before : Pass φ ε σ) (r : Request σ ρ), t = before.observed r := by
  induction requests with
  | nil => exact fun _ => List.forall_mem_nil _
  | cons r rest ih =>
    intro p t member
    rcases ended : (p.observed r).result with error | _
    · rw [(p.drive_cons_of_error r rest ended).2, List.mem_singleton] at member
      exact ⟨p, r, member⟩
    · rw [(p.drive_cons_of_ok r rest ended).2] at member
      rcases List.mem_cons.mp member with rfl | later
      · exact ⟨p, r, rfl⟩
      · exact ih _ t later

theorem made_eq_turns (requests : List (Request σ ρ)) : ∀ p : Pass φ ε σ,
    p.made requests = (p.turns requests).map Turn.call := by
  induction requests with
  | nil => exact fun _ => rfl
  | cons r rest ih =>
    intro p
    rw [made_cons, turns]
    rcases p.turn r with ⟨error | _, after⟩
    · rfl
    · exact congrArg _ (ih after)

/-- The calls of a drive are those of a history, as far as the drive goes. -/
theorem calls_turns_prefix (requests : List (Request σ ρ)) : ∀ p : Pass φ ε σ,
    (p.turns requests).map Turn.call <+: BufferEffect.calls p.effect requests := by
  induction requests with
  | nil => exact fun _ => List.prefix_refl _
  | cons r rest ih =>
    intro p
    rw [BufferEffect.calls_cons]
    rcases ended : (p.observed r).result with error | _
    · rw [(p.drive_cons_of_error r rest ended).2]
      exact (List.prefix_cons_inj _).mpr List.nil_prefix
    · rw [(p.drive_cons_of_ok r rest ended).2, ← effect_turn]
      exact (List.prefix_cons_inj _).mpr (ih _)

/-- A drive goes through all its requests without a failure, or ends with the error of its last turn,
which is the first that failed. -/
theorem drive_ends (requests : List (Request σ ρ)) : ∀ p : Pass φ ε σ,
    ((p.drive requests).1 = .ok () ∧ (p.turns requests).length = requests.length ∧
      ∀ t ∈ p.turns requests, t.result = .ok ()) ∨
    ∃ error before last, (p.drive requests).1 = .error error ∧ p.turns requests = before ++ [last] ∧
      (∀ t ∈ before, t.result = .ok ()) ∧ last.result = .error error := by
  induction requests with
  | nil => exact fun _ => .inl ⟨rfl, rfl, List.forall_mem_nil _⟩
  | cons r rest ih =>
    intro p
    rcases ended : (p.observed r).result with error | _
    · obtain ⟨driven, turned⟩ := p.drive_cons_of_error r rest ended
      rw [driven, turned]
      exact .inr ⟨error, [], _, rfl, rfl, List.forall_mem_nil _, ended⟩
    · obtain ⟨driven, turned⟩ := p.drive_cons_of_ok r rest ended
      rw [driven, turned]
      rcases ih (p.turn r).2 with ⟨through, length, completed⟩ |
        ⟨error, before, last, failed, split, completed, isLast⟩
      · refine .inl ⟨through, congrArg (· + 1) length, ?_⟩
        rintro t (_ | ⟨_, later⟩)
        exacts [ended, completed t later]
      · refine .inr ⟨error, p.observed r :: before, last, failed, by rw [split]; rfl, ?_, isLast⟩
        rintro t (_ | ⟨_, later⟩)
        exacts [ended, completed t later]

/-- What a drive leaves: the effect as the last call left it, one buffer more for every turn that was
completed, and a scope that went through the frames of the turns. -/
theorem after_drive (requests : List (Request σ ρ)) : ∀ p : Pass φ ε σ,
    (p.drive requests).2.effect = ((p.turns requests).getLast?.map fun t => t.call.answer.effect).getD p.effect ∧
      (p.drive requests).2.host.buffers = p.host.buffers + (p.turns requests).countP Turn.completed ∧
      (p.drive requests).2.host.scope = p.host.scope.map fun scope =>
        (p.turns requests).foldl (fun scope t => scope.showing t.blit) scope := by
  induction requests with
  | nil => exact fun p => ⟨rfl, rfl, by simp [turns, drive]⟩
  | cons r rest ih =>
    intro p
    rcases ended : (p.observed r).result with error | _
    · obtain ⟨driven, turned⟩ := p.drive_cons_of_error r rest ended
      rw [driven, turned]
      exact ⟨p.effect_turn r, by rw [p.buffers_turn, List.countP_singleton], p.scope_turn r⟩
    · obtain ⟨driven, turned⟩ := p.drive_cons_of_ok r rest ended
      obtain ⟨effect, buffers, scope⟩ := ih (p.turn r).2
      rw [driven, turned, effect, buffers, scope, p.buffers_turn, p.scope_turn]
      refine ⟨?_, ?_, ?_⟩
      · rw [effect_turn]
        cases (p.turn r).2.turns rest <;> rfl
      · rw [List.countP_cons]
        omega
      · rw [Option.map_map]
        rfl

/-- The frame of a turn is the picture of the effect's plot right after the call. Only a call that
succeeded has one. -/
theorem frame_of_turn (requests : List (Request σ ρ)) : ∀ p : Pass φ ε σ, ∀ t ∈ p.turns requests,
    t.blit.map Blit.frame =
      if t.call.succeeded then p.host.scope.bind fun scope => scope.picture? t.call.answer.effect else none := by
  induction requests with
  | nil => exact fun _ => List.forall_mem_nil _
  | cons r rest ih =>
    intro p t member
    have first : (p.observed r).blit.map Blit.frame =
        if (p.observed r).call.succeeded then
          p.host.scope.bind fun scope => scope.picture? (p.observed r).call.answer.effect else none := by
      unfold observed
      split
      · cases p.host.scope with
        | none => rfl
        | some scope => simp [Scope.blit?, Function.comp_def]
      · rfl
    rcases ended : (p.observed r).result with error | _
    · rw [(p.drive_cons_of_error r rest ended).2, List.mem_singleton] at member
      rw [member, first]
    · rw [(p.drive_cons_of_ok r rest ended).2] at member
      rcases List.mem_cons.mp member with rfl | later
      · exact first
      · rw [ih _ t later, p.scope_turn]
        cases p.host.scope with
        | none => rfl
        | some scope => simp

end Pass

end BufferScope
