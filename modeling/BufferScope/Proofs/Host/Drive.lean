/-
A run without its log: a list of requests, one a buffer, and the drive of an effect over them up to
the first failure. The loop of a run is that drive, whatever fails in it.
-/
import BufferScope.Proofs.Effect.History
import BufferScope.Proofs.Host.Slices

namespace BufferScope

/-! ## Requests -/

namespace HostSettings

variable {σ ρ : Type} [Sample ρ σ] [NatCast ρ]

/-- What a run hands over in the call on buffer `j`. -/
def request (s : HostSettings) (inputs : List (Array σ)) (frames j : Nat) : Request σ ρ :=
  let size := s.bufferSize.toNat
  let length := min size (frames - j * size)
  ⟨inputs.map fun channel => sliceOf ρ channel (j * size) length, silentChannels ρ s.outputChannels.toNat length,
    (s.sampleRate.toNat : ρ)⟩

/-- The requests of a run. -/
def requests (s : HostSettings) (inputs : List (Array σ)) (frames : Nat) : List (Request σ ρ) :=
  (List.range (frames ⌈/⌉ s.bufferSize.toNat)).map (s.request inputs frames)

theorem length_requests (s : HostSettings) (inputs : List (Array σ)) (frames : Nat) :
    (s.requests inputs frames : List (Request σ ρ)).length = frames ⌈/⌉ s.bufferSize.toNat := by
  unfold requests
  rw [List.length_map, List.length_range]

theorem getElem?_requests (s : HostSettings) (inputs : List (Array σ)) (frames j : Nat) (r : Request σ ρ)
    (jth : (s.requests inputs frames)[j]? = some r) : r = s.request inputs frames j := by
  unfold requests at jth
  rw [List.getElem?_map, Option.map_eq_some_iff] at jth
  obtain ⟨i, ith, rfl⟩ := jth
  obtain ⟨inside, rfl⟩ := List.getElem?_eq_some_iff.mp ith
  rw [List.getElem_range]

end HostSettings

/-! ## The drive -/

namespace Pass

variable {φ ε σ ρ : Type} [Screen φ] [BufferEffect ε σ ρ]
variable [Add ρ] [Sub ρ] [Mul ρ] [Div ρ] [Neg ρ] [Zero ρ] [One ρ] [NatCast ρ] [IntCast ρ]
  [LT ρ] [DecidableLT ρ] [BEq ρ] [RealNumber ρ]

/-- One buffer: a call on the effect, and a frame for the scope when the call succeeded. -/
def turn (p : Pass φ ε σ) (r : Request σ ρ) : Except AudioError Unit × Pass φ ε σ :=
  let answer := (BufferEffect.call p.effect r).answer
  let p := { p with effect := answer.effect }
  match answer.result with
  | .error error => (.error error, p)
  | .ok () =>
    match p.refresh.value with
    | (.error error, p) => (.error error, p)
    | (.ok (), p) => (.ok (), p.complete answer.outputs)

/-- The buffers of a list of requests, up to the first failure. -/
def drive (p : Pass φ ε σ) : List (Request σ ρ) → Except AudioError Unit × Pass φ ε σ
  | [] => (.ok (), p)
  | r :: rest =>
    match p.turn r with
    | (.error error, p) => (.error error, p)
    | (.ok (), p) => p.drive rest

theorem drive_cons (p : Pass φ ε σ) (r : Request σ ρ) (rest : List (Request σ ρ)) :
    p.drive (r :: rest) = match p.turn r with
      | (.error error, p) => (.error error, p)
      | (.ok (), p) => p.drive rest := rfl

/-! ## One buffer -/

/-- Refreshing the scope touches the scope alone. -/
theorem value_refresh (p : Pass φ ε σ) :
    p.refresh.value.2.effect = p.effect ∧ p.refresh.value.2.rendered = p.rendered ∧
      p.refresh.value.2.host.settings = p.host.settings ∧ p.refresh.value.2.host.buffers = p.host.buffers := by
  unfold refresh
  split
  · exact ⟨rfl, rfl, rfl, rfl⟩
  · exact ⟨rfl, rfl, rfl, rfl⟩

/-- The run under way after a call on the effect. -/
def called (p : Pass φ ε σ) (r : Request σ ρ) : Pass φ ε σ :=
  { p with effect := (BufferEffect.call p.effect r).answer.effect }

theorem turn_of_failed {p : Pass φ ε σ} {r : Request σ ρ} {error : AudioError}
    (failed : (BufferEffect.call p.effect r).answer.result = .error error) :
    p.turn r = (.error error, p.called r) := by
  unfold turn
  simp only [failed]
  rfl

theorem turn_of_unshown {p : Pass φ ε σ} {r : Request σ ρ} {error : AudioError} {after : Pass φ ε σ}
    (processed : (BufferEffect.call p.effect r).answer.result = .ok ())
    (unshown : (p.called r).refresh.value = (.error error, after)) : p.turn r = (.error error, after) := by
  unfold called at unshown
  unfold turn
  simp only [processed, unshown]

theorem turn_of_shown {p : Pass φ ε σ} {r : Request σ ρ} {after : Pass φ ε σ}
    (processed : (BufferEffect.call p.effect r).answer.result = .ok ())
    (shown : (p.called r).refresh.value = (.ok (), after)) :
    p.turn r = (.ok (), after.complete (BufferEffect.call p.effect r).answer.outputs) := by
  unfold called at shown
  unfold turn
  simp only [processed, shown]

/-- A buffer ends in one of three ways: the call fails, the frame for the scope fails, or both are
done and the buffer is joined and counted. -/
theorem turn_cases (p : Pass φ ε σ) (r : Request σ ρ) :
    (∃ error, (BufferEffect.call p.effect r).answer.result = .error error ∧
      p.turn r = (.error error, p.called r)) ∨
    (∃ error after, (BufferEffect.call p.effect r).answer.result = .ok () ∧
      (p.called r).refresh.value = (.error error, after) ∧ p.turn r = (.error error, after)) ∨
    (∃ after, (BufferEffect.call p.effect r).answer.result = .ok () ∧
      (p.called r).refresh.value = (.ok (), after) ∧
      p.turn r = (.ok (), after.complete (BufferEffect.call p.effect r).answer.outputs)) := by
  cases processed : (BufferEffect.call p.effect r).answer.result with
  | error error => exact .inl ⟨error, rfl, turn_of_failed processed⟩
  | ok _ =>
    rcases shown : (p.called r).refresh.value with ⟨error | _, after⟩
    · exact .inr (.inl ⟨error, after, rfl, rfl, turn_of_unshown processed shown⟩)
    · exact .inr (.inr ⟨after, rfl, rfl, turn_of_shown processed shown⟩)

/-- No buffer changes the settings of the host. -/
theorem settings_turn (p : Pass φ ε σ) (r : Request σ ρ) : (p.turn r).2.host.settings = p.host.settings := by
  have kept := (value_refresh (p.called r)).2.2.1
  obtain ⟨_, _, ended⟩ | ⟨_, _, _, shown, ended⟩ | ⟨_, _, shown, ended⟩ := turn_cases p r
  · rw [ended]
    rfl
  · rw [ended]
    rw [shown] at kept
    exact kept
  · rw [ended]
    rw [shown] at kept
    exact kept

/-! ## The loop -/

variable [Sample ρ σ]

/-- Buffer `j` of a run is the turn on its request, apart from the log. -/
theorem value_buffer (p : Pass φ ε σ) {settings : HostSettings} (same : p.host.settings = settings)
    (inputs : List (Array σ)) (frames j : Nat) :
    (p.buffer inputs (j * settings.bufferSize.toNat)
        (min settings.bufferSize.toNat (frames - j * settings.bufferSize.toNat))).value =
      p.turn (settings.request inputs frames j) := by
  subst same
  unfold buffer turn BufferEffect.call HostSettings.request Host.rate
  simp only [Logged.value_bind]
  generalize (BufferEffect.process p.effect _ _ _).value = answer
  rcases answer with ⟨error | _, effect, outputs⟩
  · rfl
  · simp only [Logged.value_bind]
    generalize (refresh (⟨p.host, effect, p.rendered⟩ : Pass φ ε σ)).value = shown
    rcases shown with ⟨error | _, after⟩
    · rfl
    · rfl

theorem value_buffersFrom_end (inputs : List (Array σ)) {frames size : Nat} (positive : 0 < size) (p : Pass φ ε σ)
    (entries : Array LogEntry) {offset : Nat} (passed : frames ≤ offset) :
    (buffersFrom inputs frames size positive p entries offset).value = (.ok (), p) := by
  unfold buffersFrom
  rw [if_neg (Nat.not_lt.mpr passed)]

/-- The loop from buffer `j` on, with `n` buffers to go, drives the effect over their requests. -/
theorem value_buffersFrom (settings : HostSettings) (positive : 0 < settings.bufferSize.toNat)
    (inputs : List (Array σ)) (frames n : Nat) :
    ∀ (p : Pass φ ε σ) (entries : Array LogEntry) (j : Nat), p.host.settings = settings →
      j + n = frames ⌈/⌉ settings.bufferSize.toNat →
      (buffersFrom inputs frames settings.bufferSize.toNat positive p entries (j * settings.bufferSize.toNat)).value =
        p.drive ((List.range' j n).map (settings.request inputs frames)) := by
  -- On the buffers to go. No buffer changes the settings, so the requests can be named beforehand.
  induction n with
  | zero =>
    intro p entries j _ last
    have passed := (lt_ceilDiv positive frames j).not.mp (by omega)
    exact value_buffersFrom_end inputs positive p entries (Nat.le_of_not_lt passed)
  | succ n ih =>
    intro p entries j same last
    have more := (lt_ceilDiv positive frames j).mp (by omega)
    unfold buffersFrom
    rw [if_pos more, List.range'_succ, List.map_cons, drive_cons]
    simp only [value_buffer p same]
    have kept := settings_turn p (settings.request inputs frames j)
    generalize p.turn (settings.request inputs frames j) = ended at kept ⊢
    rcases ended with ⟨error | _, after⟩
    · rfl
    · simp only at kept ⊢
      by_cases full : (j + 1) * settings.bufferSize.toNat ≤ frames
      · rw [Nat.add_mul, Nat.one_mul] at full
        rw [min_eq_left (by omega), ← Nat.succ_mul]
        exact ih after _ (j + 1) (kept.trans same) (by omega)
      · -- the buffer was the last one and short, so the offset stops at the frames
        have none := (lt_ceilDiv positive frames (j + 1)).not.mpr (by omega)
        rw [show n = 0 by omega]
        rw [Nat.add_mul, Nat.one_mul] at full
        exact value_buffersFrom_end inputs positive after _ (by omega)

/-- What a run leaves after its last buffer; only a drive without a failure leaves audio. -/
def conclude (ended : Except AudioError Unit × Pass φ ε σ) : Rendered φ ε σ :=
  ⟨ended.1.map fun _ => ended.2.rendered, ended.2.host, ended.2.effect⟩

end Pass

/-! ## A run -/

namespace Host

variable {φ ε σ ρ : Type}

/-- A run before its first buffer. -/
def start (h : Host φ) (effect : ε) : Pass φ ε σ :=
  ⟨h, effect, List.replicate h.settings.outputChannels.toNat #[]⟩

variable [Screen φ] [BufferEffect ε σ ρ] [Sample ρ σ]
variable [Add ρ] [Sub ρ] [Mul ρ] [Div ρ] [Neg ρ] [Zero ρ] [One ρ] [NatCast ρ] [IntCast ρ]
  [LT ρ] [DecidableLT ρ] [BEq ρ] [RealNumber ρ]

/-- A run is the drive over its requests, apart from the log. -/
theorem value_run (h : Host φ) (effect : ε) (inputs : List (Array σ)) (frames : Nat) :
    (h.run effect inputs frames).value =
      Pass.conclude ((h.start effect).drive (h.settings.requests inputs frames)) := by
  generalize driven : (h.start effect).drive (h.settings.requests inputs frames) = ended
  have looped := Pass.value_buffersFrom h.settings h.hasFrames inputs frames
    (frames ⌈/⌉ h.settings.bufferSize.toNat) (h.start effect) #[] 0 rfl (Nat.zero_add _)
  rw [Nat.zero_mul, ← List.range_eq_range'] at looped
  have looped := looped.trans driven
  unfold start at looped
  unfold run
  simp only [Logged.value_bind]
  rw [looped]
  rcases ended with ⟨error | _, after⟩
  · rfl
  · rfl

end Host

end BufferScope
