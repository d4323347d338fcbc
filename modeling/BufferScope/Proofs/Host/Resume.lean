/-
Runs that are taken up again. `Host.run_add`: a run over whole buffers and then another, on the host and
the effect that the first left and on the rest of the inputs, are one run.
-/
import BufferScope.Proofs.Host.Session

namespace BufferScope

/-! ## Requests -/

/-- The requests of a run are those of its first whole buffers, and then those of a run on the rest. -/
theorem HostSettings.requests_add {σ ρ : Type} [Sample ρ σ] [NatCast ρ] (s : HostSettings)
    (positive : 0 < s.bufferSize.toNat) (inputs : List (Array σ)) {first : ℕ} (second : ℕ)
    (whole : s.bufferSize.toNat ∣ first) :
    (s.requests inputs (first + second) : List (Request σ ρ)) =
      s.requests inputs first ++ s.requests (inputs.map (·.drop first)) second := by
  obtain ⟨n, rfl⟩ := whole
  have count : (s.bufferSize.toNat * n) ⌈/⌉ s.bufferSize.toNat = n := by
    have full := ceilDiv_mul_add positive n 0
    rwa [zero_ceilDiv, Nat.add_zero, Nat.add_zero] at full
  unfold requests
  rw [ceilDiv_mul_add positive, count, List.range_add, List.map_append, List.map_map]
  congr 1
  · refine List.map_congr_left fun j member => ?_
    have inside : (j + 1) * s.bufferSize.toNat ≤ n * s.bufferSize.toNat :=
      Nat.mul_le_mul_right _ (List.mem_range.mp member)
    rw [Nat.succ_mul, Nat.mul_comm n] at inside
    have size : min s.bufferSize.toNat (s.bufferSize.toNat * n + second - j * s.bufferSize.toNat) =
        min s.bufferSize.toNat (s.bufferSize.toNat * n - j * s.bufferSize.toNat) := by omega
    unfold request
    simp only [size]
  · refine List.map_congr_left fun j _ => ?_
    have offset : (n + j) * s.bufferSize.toNat = s.bufferSize.toNat * n + j * s.bufferSize.toNat := by
      rw [Nat.add_mul, Nat.mul_comm n]
    unfold request
    simp only [Function.comp_apply, offset, Nat.add_sub_add_left, List.map_map, Function.comp_def, sliceOf_drop]

variable {φ ε σ ρ : Type}

/-! ## Output from before -/

theorem zipWith_append_assoc (as bs cs : List (Array σ)) :
    List.zipWith (· ++ ·) (List.zipWith (· ++ ·) as bs) cs =
      List.zipWith (· ++ ·) as (List.zipWith (· ++ ·) bs cs) := by
  induction as generalizing bs cs with
  | nil => rfl
  | cons a as ih => cases bs <;> cases cs <;> simp [ih, Array.append_assoc]

theorem zipWith_append_replicate (as : List (Array σ)) {channels : ℕ} (enough : as.length ≤ channels) :
    List.zipWith (· ++ ·) as (List.replicate channels #[]) = as := by
  induction as generalizing channels with
  | nil => rfl
  | cons a as ih =>
    obtain ⟨n, rfl⟩ := Nat.exists_eq_add_of_le' (Nat.one_le_of_lt enough)
    rw [List.replicate_succ, List.zipWith_cons_cons, ih (by simpa using enough), Array.append_empty]

namespace Pass

/-- The run under way with output from before in front of its own. -/
def prepended (earlier : List (Array σ)) (p : Pass φ ε σ) : Pass φ ε σ :=
  { p with rendered := List.zipWith (· ++ ·) earlier p.rendered }

/-- A run under way goes on as a new one on its host and its effect, behind the output it has. -/
theorem eq_prepended_start (p : Pass φ ε σ) (enough : p.rendered.length ≤ p.host.settings.outputChannels.toNat) :
    p = (p.host.start p.effect).prepended p.rendered := by
  unfold prepended Host.start
  rw [zipWith_append_replicate p.rendered enough]

theorem conclude_prepended (earlier : List (Array σ)) (ended : Except AudioError Unit × Pass φ ε σ) :
    conclude (ended.1, ended.2.prepended earlier) =
      ⟨(conclude ended).result.map (List.zipWith (· ++ ·) earlier), (conclude ended).host,
        (conclude ended).effect⟩ := by
  rcases ended with ⟨error | _, p⟩
  · rfl
  · rfl

end Pass

variable [Screen φ] [BufferEffect ε σ ρ]
variable [Add ρ] [Sub ρ] [Mul ρ] [Div ρ] [Neg ρ] [Zero ρ] [One ρ] [NatCast ρ] [IntCast ρ]
  [LT ρ] [DecidableLT ρ] [BEq ρ] [RealNumber ρ]

/-! ## One drive after the other -/

namespace Pass

/-- A drive over two lists of requests fails in the first, or goes on to the second as the first left it. -/
theorem drive_append (first second : List (Request σ ρ)) : ∀ p : Pass φ ε σ,
    (∃ error, (p.drive first).1 = .error error ∧ p.drive (first ++ second) = p.drive first ∧
      p.turns (first ++ second) = p.turns first) ∨
    (p.drive first).1 = .ok () ∧ p.drive (first ++ second) = (p.drive first).2.drive second ∧
      p.turns (first ++ second) = p.turns first ++ (p.drive first).2.turns second := by
  induction first with
  | nil => exact fun _ => .inr ⟨rfl, rfl, rfl⟩
  | cons r rest ih =>
    intro p
    rw [List.cons_append]
    rcases ended : (p.observed r).result with error | _
    · obtain ⟨driven, turned⟩ := p.drive_cons_of_error r rest ended
      obtain ⟨driven', turned'⟩ := p.drive_cons_of_error r (rest ++ second) ended
      exact .inl ⟨error, by rw [driven], driven'.trans driven.symm, turned'.trans turned.symm⟩
    · obtain ⟨driven, turned⟩ := p.drive_cons_of_ok r rest ended
      obtain ⟨driven', turned'⟩ := p.drive_cons_of_ok r (rest ++ second) ended
      rw [driven, turned, driven', turned']
      obtain ⟨error, failed, same, turns⟩ | ⟨ok, same, turns⟩ := ih (p.turn r).2
      · exact .inl ⟨error, failed, same, congrArg _ turns⟩
      · exact .inr ⟨ok, same, congrArg _ turns⟩

/-- No drive changes the settings of the host, or adds a channel to the output. -/
theorem kept_drive (requests : List (Request σ ρ)) : ∀ p : Pass φ ε σ,
    (p.drive requests).2.host.settings = p.host.settings ∧
      (p.drive requests).2.rendered.length ≤ p.rendered.length := by
  induction requests with
  | nil => exact fun _ => ⟨rfl, le_rfl⟩
  | cons r rest ih =>
    intro p
    have settings := p.settings_turn r
    have length : (p.turn r).2.rendered.length ≤ p.rendered.length := by
      rw [rendered_turn]
      split
      · rw [List.length_zipWith]
        exact min_le_left ..
      · exact le_rfl
    rcases ended : (p.observed r).result with error | _
    · rw [(p.drive_cons_of_error r rest ended).1]
      exact ⟨settings, length⟩
    · rw [(p.drive_cons_of_ok r rest ended).1]
      obtain ⟨later, most⟩ := ih (p.turn r).2
      exact ⟨later.trans settings, most.trans length⟩

theorem turn_prepended (earlier : List (Array σ)) (p : Pass φ ε σ) (r : Request σ ρ) :
    (p.prepended earlier).turn r = ((p.turn r).1, (p.turn r).2.prepended earlier) := by
  have observed : (p.prepended earlier).observed r = p.observed r := rfl
  rw [turn_eq, turn_eq, observed]
  split
  · unfold prepended complete
    simp only [showing, called, zipWith_append_assoc]
  · rfl

/-- Output from before does not matter to a drive, which leaves it in front of its own. -/
theorem drive_prepended (earlier : List (Array σ)) (requests : List (Request σ ρ)) : ∀ p : Pass φ ε σ,
    (p.prepended earlier).drive requests = ((p.drive requests).1, (p.drive requests).2.prepended earlier) ∧
      (p.prepended earlier).turns requests = p.turns requests := by
  induction requests with
  | nil => exact fun _ => ⟨rfl, rfl⟩
  | cons r rest ih =>
    intro p
    have turned := turn_prepended earlier p r
    rw [drive_cons, drive_cons, turns, turns, turned]
    rcases p.turn r with ⟨error | _, after⟩
    · exact ⟨rfl, rfl⟩
    · exact ⟨(ih after).1, congrArg _ (ih after).2⟩

end Pass

/-! ## One run after the other -/

namespace Host

variable [Sample ρ σ]

/-- No run changes the settings of the host. -/
theorem settings_run (h : Host φ) (effect : ε) (inputs : List (Array σ)) (frames : ℕ) :
    (h.run effect inputs frames).value.host.settings = h.settings := by
  rw [value_run]
  exact (Pass.kept_drive _ _).1

/-- A run over `first + second` frames, where `first` fills whole buffers, on any host with any effect and
any inputs, which may end before, at or after `first`. If the run over the first frames fails, it is that
run, with the same error, host, effect and frames for the screen. If not, it is that run and then one over
the other frames, on the host and the effect that the first left and on what is left of the inputs: the
outputs are joined channel by channel, the error is that of the second run if it fails, and the host, with
its counters and its scope, and the effect are as the second run leaves them. The screen is handed the
frames of the first run and then those of the second. -/
theorem run_add (h : Host φ) (effect : ε) (inputs : List (Array σ)) {first : ℕ} (second : ℕ)
    (whole : h.settings.bufferSize.toNat ∣ first) :
    (∀ error, (h.run effect inputs first).value.result = .error error →
      (h.run effect inputs (first + second)).value = (h.run effect inputs first).value ∧
        h.blits effect inputs (first + second) = h.blits effect inputs first) ∧
    ∀ (audio : List (Array σ)) (host : Host φ) (left : ε),
      (h.run effect inputs first).value = ⟨.ok audio, host, left⟩ →
        (h.run effect inputs (first + second)).value =
          ⟨(host.run left (inputs.map (·.drop first)) second).value.result.map (List.zipWith (· ++ ·) audio),
            (host.run left (inputs.map (·.drop first)) second).value.host,
            (host.run left (inputs.map (·.drop first)) second).value.effect⟩ ∧
        h.blits effect inputs (first + second) =
          h.blits effect inputs first ++ host.blits left (inputs.map (·.drop first)) second := by
  obtain ⟨settings, length⟩ := Pass.kept_drive (h.settings.requests inputs first) (h.start effect)
  rw [(h.run_eq_watched effect inputs (first + second)).2, (h.run_eq_watched effect inputs first).2, turns, turns,
    value_run, value_run, HostSettings.requests_add h.settings h.hasFrames inputs second whole]
  obtain ⟨error, failed, same, turned⟩ | ⟨through, same, turned⟩ := Pass.drive_append
    (h.settings.requests inputs first) (h.settings.requests (inputs.map (·.drop first)) second) (h.start effect)
  · rw [same, turned]
    refine ⟨fun _ _ => ⟨rfl, rfl⟩, fun audio host left ran => ?_⟩
    have result := congrArg Rendered.result ran
    rw [Pass.conclude, failed] at result
    cases result
  · rw [same, turned]
    generalize (h.start effect).drive (h.settings.requests inputs first) = ended at through settings length ⊢
    rcases ended with ⟨_, p⟩
    cases through
    refine ⟨fun error failed => (by cases failed), fun audio host left ran => ?_⟩
    cases ran
    -- the second run starts where the first one stopped, but for the output
    have enough : p.rendered.length ≤ p.host.settings.outputChannels.toNat := by
      rw [settings]
      exact length.trans_eq List.length_replicate
    have resumed := p.eq_prepended_start enough
    obtain ⟨driven, seen⟩ := Pass.drive_prepended p.rendered
      (h.settings.requests (inputs.map (·.drop first)) second) (p.host.start p.effect)
    rw [← resumed] at driven seen
    rw [(p.host.run_eq_watched p.effect _ second).2, turns, value_run]
    have kept : p.host.settings = h.settings := settings
    rw [kept, driven, seen, List.filterMap_append]
    exact ⟨Pass.conclude_prepended _ _, rfl⟩

/-- The host of `Stage.worn` after two buffers, of which the second was shown. -/
def worn : Host WornScreen :=
  { Stage.worn.host with
    scope := Stage.worn.host.scope.map fun scope => { scope with screen := ⟨0⟩, frames := 1 }
    buffers := 2 }

/-- Two frames a buffer, on a screen that takes one frame. A run over four frames goes through, and the
run over a fifth fails at its frame, and so does the run over all five. A run that fails within its first
six frames is not changed by two more. -/
theorem run_add_worn :
    2 ∣ 4 ∧ (Stage.worn.host.run (⟨0⟩ : Counter) [#[1, 2, 3]] 4).value =
      ⟨.ok [#[0, 0, 0, 0]], worn, ⟨2⟩⟩ ∧
    (Stage.worn.host.run (⟨0⟩ : Counter) [#[1, 2, 3]] 5).value.result = .error (.render .screenUnavailable) ∧
    (Stage.worn.host.run (⟨0⟩ : Counter) [#[1, 2, 3]] 5).value.host =
      (worn.run (⟨2⟩ : Counter) [(#[1, 2, 3] : Array Float32).drop 4] 1).value.host ∧
    2 ∣ 6 ∧ (Stage.worn.host.run (⟨0⟩ : Counter) [] 8).value =
      (Stage.worn.host.run (⟨0⟩ : Counter) [] 6).value := by
  have ran : (Stage.worn.host.run (⟨0⟩ : Counter) [#[1, 2, 3]] 4).value =
      ⟨.ok [#[0, 0, 0, 0]], worn, ⟨2⟩⟩ := by
    rw [value_run]
    rfl
  have failed : (worn.run (⟨2⟩ : Counter) [(#[1, 2, 3] : Array Float32).drop 4] 1).value.result =
      .error (.render .screenUnavailable) := by
    rw [value_run]
    rfl
  have failed' : (Stage.worn.host.run (⟨0⟩ : Counter) [] 6).value.result = .error (.render .screenUnavailable) := by
    rw [value_run]
    rfl
  obtain ⟨-, continued⟩ := run_add Stage.worn.host (⟨0⟩ : Counter) [#[1, 2, 3]] 1 (by decide : 2 ∣ 4)
  obtain ⟨stopped, -⟩ := run_add Stage.worn.host (⟨0⟩ : Counter) [] 2 (by decide : 2 ∣ 6)
  have once := (continued _ _ _ ran).1
  refine ⟨by decide, ran, ?_, ?_, by decide, (stopped _ failed').1⟩
  · exact (congrArg Rendered.result once).trans (congrArg (Except.map _) failed)
  · have host := congrArg Rendered.host once
    exact host

end Host

end BufferScope
