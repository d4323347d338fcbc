/-
The audio of runs that go through. Block `j` of an output channel is what call `j` leaves in it, and this
call meets the effect after the calls on the blocks before.
-/
import BufferScope.Proofs.Host.Run
import BufferScope.Proofs.Host.Watched

namespace BufferScope

/-! ## Blocks of the output -/

section Blocks

variable {ε σ ρ : Type} [BufferEffect ε σ ρ] [Sample ρ σ] [NatCast ρ]

/-- The requests before block `j`. -/
theorem HostSettings.take_requests (settings : HostSettings) (inputs : List (Array σ)) {frames j : ℕ}
    (reached : j ≤ frames ⌈/⌉ settings.bufferSize.toNat) :
    (settings.requests inputs frames : List (Request σ ρ)).take j =
      (List.range j).map (settings.request inputs frames) := by
  unfold requests
  rw [← List.map_take, List.take_range, min_eq_left reached]

/-- The calls of a run that goes through, by the number of the block. -/
theorem calls_requests (settings : HostSettings) (effect : ε) (inputs : List (Array σ)) (frames : ℕ) :
    BufferEffect.calls effect (settings.requests inputs frames) =
      (List.range (frames ⌈/⌉ settings.bufferSize.toNat)).map fun j =>
        BufferEffect.call (BufferEffect.after effect ((settings.requests inputs frames).take j))
          (settings.request inputs frames j) := by
  apply List.ext_getElem?
  intro j
  rw [BufferEffect.getElem?_calls, List.getElem?_map]
  unfold HostSettings.requests
  rw [List.getElem?_map, Option.map_map]
  rcases Nat.lt_or_ge j (frames ⌈/⌉ settings.bufferSize.toNat) with inside | outside
  · rw [List.getElem?_range inside]
    rfl
  · rw [List.getElem?_eq_none (by rwa [List.length_range])]
    rfl

/-- Block `j` of an output channel is what call `j` leaves in it. -/
theorem block_flatMap_left (keeps : BufferEffect.KeepsLengths ε) (settings : HostSettings)
    (positive : 0 < settings.bufferSize.toNat) (effect : ε) (inputs : List (Array σ)) {frames j k : ℕ}
    (inside : k < settings.outputChannels.toNat) (reaches : j * settings.bufferSize.toNat < frames) :
    (((BufferEffect.calls effect (settings.requests inputs frames)).flatMap (·.left k)).drop
        (j * settings.bufferSize.toNat)).take settings.bufferSize.toNat =
      (BufferEffect.call (BufferEffect.after effect ((settings.requests inputs frames).take j))
        (settings.request inputs frames j)).left k := by
  have sized : ∀ j, ((BufferEffect.call (BufferEffect.after effect ((settings.requests inputs frames).take j))
      (settings.request inputs frames j)).left k).length =
        min settings.bufferSize.toNat (frames - j * settings.bufferSize.toNat) := fun j =>
    (keeps.length_left _ _ k).trans (settings.size_output inputs frames j inside)
  rw [calls_requests, List.flatMap_map]
  refine take_drop_flatMap_range (fun i more => ?_) (fun i _ => ?_) ((lt_ceilDiv positive frames j).mpr reaches)
  · have full := (lt_ceilDiv positive frames (i + 1)).mp more
    rw [Nat.succ_mul] at full
    rw [sized]
    omega
  · rw [sized]
    omega

/-- Sample `n` of an output channel lies in block `n / size`. -/
theorem getElem?_flatMap_left (keeps : BufferEffect.KeepsLengths ε) (settings : HostSettings)
    (positive : 0 < settings.bufferSize.toNat) (effect : ε) (inputs : List (Array σ)) {frames n k : ℕ}
    (inside : k < settings.outputChannels.toNat) (reached : n < frames) :
    ((BufferEffect.calls effect (settings.requests inputs frames)).flatMap (·.left k))[n]? =
      ((BufferEffect.call (BufferEffect.after effect
          ((settings.requests inputs frames).take (n / settings.bufferSize.toNat)))
        (settings.request inputs frames (n / settings.bufferSize.toNat))).left k)[n % settings.bufferSize.toNat]? := by
  have place := Nat.div_add_mod' n settings.bufferSize.toNat
  rw [← block_flatMap_left keeps settings positive effect inputs inside (by omega), List.getElem?_take,
    if_pos (Nat.mod_lt n positive), List.getElem?_drop, place]

end Blocks

/-! ## Runs -/

variable {φ ε σ ρ : Type} [Screen φ] [BufferEffect ε σ ρ]
variable [Add ρ] [Sub ρ] [Mul ρ] [Div ρ] [Neg ρ] [Zero ρ] [One ρ] [NatCast ρ] [IntCast ρ]
  [LT ρ] [DecidableLT ρ] [BEq ρ] [RealNumber ρ]

/-- The output grows by what the turns leave that were completed. -/
theorem Pass.rendered_drive (requests : List (Request σ ρ)) : ∀ p : Pass φ ε σ,
    (p.drive requests).2.rendered = joined p.rendered (((p.turns requests).filter Turn.completed).map Turn.call) := by
  induction requests with
  | nil => exact fun _ => rfl
  | cons r rest ih =>
    intro p
    have rendered := p.rendered_turn r
    rcases ended : (p.observed r).result with error | _
    · obtain ⟨driven, turned⟩ := p.drive_cons_of_error r rest ended
      have missed : (p.observed r).completed = false := by rw [Turn.completed, ended]; rfl
      rw [driven, turned, rendered, List.filter_cons, missed]
      rfl
    · obtain ⟨driven, turned⟩ := p.drive_cons_of_ok r rest ended
      have completed : (p.observed r).completed = true := by rw [Turn.completed, ended]; rfl
      rw [driven, turned, ih, rendered, List.filter_cons, completed]
      rfl

variable [Sample ρ σ]

/-- A run that succeeds has made a call for every buffer, all of them succeeded, and its audio is what
they left. -/
theorem Host.calls_of_run_ok {h : Host φ} {e : ε} {inputs : List (Array σ)} {frames : ℕ}
    {rendered : List (Array σ)} (ran : (h.run e inputs frames).value.result = .ok rendered) :
    (∀ c ∈ BufferEffect.calls e (h.settings.requests inputs frames), c.answer.result = .ok ()) ∧
      rendered = joined (List.replicate h.settings.outputChannels.toNat #[])
        (BufferEffect.calls e (h.settings.requests inputs frames)) := by
  rw [value_run, Pass.conclude] at ran
  have left := Pass.rendered_drive (h.settings.requests inputs frames) (h.start e)
  rcases Pass.drive_ends (h.settings.requests inputs frames) (h.start e) with
    ⟨through, length, completed⟩ | ⟨_, _, _, failed, -⟩
  · have every : ((h.start e).turns (h.settings.requests inputs frames)).map Turn.call = BufferEffect.calls e _ :=
      (Pass.calls_turns_prefix _ (h.start e)).eq_of_length
        (by rw [List.length_map, length, BufferEffect.length_calls])
    rw [List.filter_eq_self.mpr fun t member => by rw [Turn.completed, completed t member]; rfl, every] at left
    rw [through] at ran
    refine ⟨?_, (Except.ok.inj ran).symm.trans left⟩
    rw [← every]
    intro c made
    obtain ⟨t, member, rfl⟩ := List.mem_map.mp made
    exact Turn.call_of_result (completed t member)
  · rw [failed] at ran
    cases ran

/-- The audio of a run that succeeds: a channel for every output, as long as the run, that holds what the calls
left there. -/
theorem Host.audio_of_run_ok (keeps : BufferEffect.KeepsLengths ε) {h : Host φ} {e : ε} {inputs : List (Array σ)}
    {frames : ℕ} {audio : List (Array σ)} (ran : (h.run e inputs frames).value.result = .ok audio) :
    audio.length = h.settings.outputChannels.toNat ∧
    ∀ (k : ℕ) (out : Array σ), audio[k]? = some out → k < h.settings.outputChannels.toNat ∧
      out.size = frames ∧
      out.toList = (BufferEffect.calls e (h.settings.requests inputs frames)).flatMap (·.left k) := by
  obtain ⟨-, rfl⟩ := calls_of_run_ok ran
  obtain ⟨length, joins⟩ := joined_silence fun c made => length_outputs keeps h.settings e inputs frames made
  refine ⟨length, fun k out kth => ?_⟩
  obtain ⟨inside, left⟩ := joins k out kth
  refine ⟨inside, ?_, left⟩
  rw [← Array.length_toList, left]
  exact length_flatMap_left keeps h.settings h.hasFrames e inputs frames inside

theorem Host.sizes_of_run_ok (keeps : BufferEffect.KeepsLengths ε) {h : Host φ} {e : ε} {inputs : List (Array σ)}
    {frames : ℕ} {audio : List (Array σ)} (ran : (h.run e inputs frames).value.result = .ok audio) :
    audio.length = h.settings.outputChannels.toNat ∧ ∀ out ∈ audio, out.size = frames := by
  obtain ⟨length, joins⟩ := audio_of_run_ok keeps ran
  refine ⟨length, fun out member => ?_⟩
  obtain ⟨k, kth⟩ := List.getElem?_of_mem member
  exact (joins k out kth).2.1

/-- A run without a scope goes through if no call on its requests fails. -/
theorem Host.run_plain (h : Host φ) (plain : h.scope = none) (effect : ε) (inputs : List (Array σ)) (frames : ℕ)
    (processed : ∀ c ∈ BufferEffect.calls effect (h.settings.requests inputs frames), c.answer.result = .ok ()) :
    (h.run effect inputs frames).value.result =
        .ok (joined (List.replicate h.settings.outputChannels.toNat #[])
          (BufferEffect.calls effect (h.settings.requests inputs frames))) ∧
      (h.run effect inputs frames).value.effect = BufferEffect.after effect (h.settings.requests inputs frames) := by
  have made : ∀ c ∈ h.calls effect inputs frames, c.answer.result = .ok () := by
    rw [h.calls_eq_turns]
    exact fun c made => processed c ((Pass.calls_turns_prefix _ (h.start effect)).subset made)
  obtain ⟨calls, result, after, -⟩ := h.run_of_ok effect inputs frames made fun scope onScreen =>
    nomatch plain.symm.trans onScreen
  rw [calls] at result
  exact ⟨result, after⟩

/-- So does a run with a screen that takes every frame. -/
theorem Host.run_of_processed (h : Host φ) (effect : ε) (inputs : List (Array σ)) (frames : ℕ)
    (processed : ∀ c ∈ BufferEffect.calls effect (h.settings.requests inputs frames), c.answer.result = .ok ())
    (taken : ∀ t ∈ h.turns effect inputs frames, ∀ b, t.blit = some b → b.answer = .ok ()) :
    (h.run effect inputs frames).value.result =
        .ok (joined (List.replicate h.settings.outputChannels.toNat #[])
          (BufferEffect.calls effect (h.settings.requests inputs frames))) ∧
      (h.run effect inputs frames).value.effect = BufferEffect.after effect (h.settings.requests inputs frames) := by
  have alone := h.unscoped.run_plain rfl effect inputs frames processed
  rw [h.run_unscoped effect inputs frames taken] at alone
  exact alone

/-- A run that goes through leaves the same audio on a host with the same settings and no scope. -/
theorem Host.run_plain_of_ok {ψ : Type} [Screen ψ] {h : Host φ} {plain : Host ψ} (alone : plain.scope = none)
    (settings : plain.settings = h.settings) {e : ε} {inputs : List (Array σ)} {frames : ℕ}
    {audio : List (Array σ)} (ran : (h.run e inputs frames).value.result = .ok audio) :
    (plain.run e inputs frames).value.result = .ok audio := by
  obtain ⟨processed, rfl⟩ := calls_of_run_ok ran
  rw [← settings] at processed ⊢
  exact (plain.run_plain alone e inputs frames processed).1

end BufferScope
