/-
A run in which nothing fails: how many calls it makes and with what, which samples of the input they
receive, and how the output is put together from what they leave.
-/
import BufferScope.Proofs.Host.Calls
import BufferScope.Screen.Memory

namespace BufferScope

/-! ## Joining -/

section Joining

variable {ε σ ρ : Type}

/-- The output after the buffers of some calls. -/
def joined (rendered : List (Array σ)) (calls : List (Call ε σ ρ)) : List (Array σ) :=
  calls.foldl (fun rendered c => List.zipWith (· ++ ·) rendered c.answer.outputs) rendered

/-- Every output channel grows by what each call left in it, in order. -/
theorem getElem?_joined (calls : List (Call ε σ ρ)) : ∀ (rendered : List (Array σ)),
    (∀ c ∈ calls, c.answer.outputs.length = rendered.length) →
      (joined rendered calls).length = rendered.length ∧
      ∀ (k : Nat) (channel out : Array σ), rendered[k]? = some channel → (joined rendered calls)[k]? = some out →
        out.toList = channel.toList ++ calls.flatMap fun c => c.left k := by
  -- The joining is channel by channel and would drop channels that a call did not leave, so the number
  -- of channels is carried along.
  induction calls with
  | nil =>
    intro rendered _
    refine ⟨rfl, fun k channel out here there => ?_⟩
    rw [List.flatMap_nil, List.append_nil]
    exact congrArg Array.toList (Option.some_inj.mp (there.symm.trans here))
  | cons c rest ih =>
    intro rendered even
    have width := even c List.mem_cons_self
    have grown : (List.zipWith (· ++ ·) rendered c.answer.outputs).length = rendered.length := by
      rw [List.length_zipWith, width, min_self]
    obtain ⟨length, joins⟩ := ih (List.zipWith (· ++ ·) rendered c.answer.outputs)
      fun d later => (even d (List.mem_cons_of_mem c later)).trans grown.symm
    refine ⟨length.trans grown, fun k channel out here there => ?_⟩
    have inside : k < c.answer.outputs.length := by
      rw [width]
      exact (List.getElem?_eq_some_iff.mp here).1
    have left := List.getElem?_eq_getElem inside
    have step : (List.zipWith (· ++ ·) rendered c.answer.outputs)[k]? = some (channel ++ c.answer.outputs[k]) := by
      rw [List.getElem?_zipWith, here, left]
    rw [joins k _ out step there, Array.toList_append, List.append_assoc, List.flatMap_cons]
    unfold Call.left
    rw [left]
    rfl

/-- The output of a run holds in every channel what the calls left there, in order. -/
theorem joined_silence {channels : Nat} {calls : List (Call ε σ ρ)}
    (even : ∀ c ∈ calls, c.answer.outputs.length = channels) :
    (joined (List.replicate channels #[]) calls).length = channels ∧
      ∀ (k : Nat) (out : Array σ), (joined (List.replicate channels #[]) calls)[k]? = some out →
        k < channels ∧ out.toList = calls.flatMap fun c => c.left k := by
  have start : (List.replicate channels (#[] : Array σ)).length = channels := List.length_replicate
  obtain ⟨length, joins⟩ :=
    getElem?_joined calls (List.replicate channels #[]) fun c made => (even c made).trans start.symm
  rw [start] at length
  refine ⟨length, fun k out kth => ?_⟩
  have inside : k < channels := by
    rw [← length]
    exact (List.getElem?_eq_some_iff.mp kth).1
  exact ⟨inside, joins k #[] out (by rw [List.getElem?_replicate, if_pos inside]) kth⟩

end Joining

/-! ## Success -/

section Success

variable {φ ε σ ρ : Type} [Screen φ] [BufferEffect ε σ ρ]
variable [Add ρ] [Sub ρ] [Mul ρ] [Div ρ] [Neg ρ] [Zero ρ] [One ρ] [NatCast ρ] [IntCast ρ]
  [LT ρ] [DecidableLT ρ] [BEq ρ] [RealNumber ρ]

/-- What a scope answers when it presents one effect after the other. -/
def Scope.presents (s : Scope φ) : List ε → List (Except AudioError Unit)
  | [] => []
  | effect :: rest => (s.present effect).value.1 :: (s.present effect).value.2.presents rest

/-- The frame after a call, when the scope would present the effect without a failure: it is shown,
and the scope goes on to present the effects that follow. -/
theorem Pass.refresh_of_presented (p : Pass φ ε σ) (later : List ε)
    (presented : ∀ scope, p.host.scope = some scope → ∀ shown ∈ scope.presents (p.effect :: later),
      shown = .ok ()) :
    ∃ after, p.refresh.value = (.ok (), after) ∧
      ∀ scope, after.host.scope = some scope → ∀ shown ∈ scope.presents later, shown = .ok () := by
  rcases p with ⟨⟨settings, scope, buffers, hasRate, hasFrames, hasOutput⟩, effect, rendered⟩
  cases scope with
  | none => exact ⟨_, rfl, fun scope absent => nomatch absent⟩
  | some scope =>
    have answers := presented scope rfl
    unfold Scope.presents at answers
    refine ⟨_, Prod.ext (answers _ List.mem_cons_self) rfl, fun next same shown later => ?_⟩
    cases same
    exact answers shown (List.mem_cons_of_mem _ later)

/-- A drive in which no call and no frame fails makes the call for every request, and counts and
joins every buffer. -/
theorem Pass.drive_of_ok (requests : List (Request σ ρ)) : ∀ p : Pass φ ε σ,
    (∀ c ∈ p.made requests, c.answer.result = .ok ()) →
    (∀ scope, p.host.scope = some scope →
      ∀ shown ∈ scope.presents ((p.made requests).map fun c => c.answer.effect), shown = .ok ()) →
    p.made requests = BufferEffect.calls p.effect requests ∧ (p.drive requests).1 = .ok () ∧
      (p.drive requests).2.effect = BufferEffect.after p.effect requests ∧
      (p.drive requests).2.host.buffers = p.host.buffers + requests.length ∧
      (p.drive requests).2.rendered = joined p.rendered (p.made requests) := by
  induction requests with
  | nil => exact fun p _ _ => ⟨rfl, rfl, rfl, rfl, rfl⟩
  | cons r rest ih =>
    intro p processed presented
    rw [made_cons] at processed presented ⊢
    -- neither the call nor the frame after it fails, so the turn completes and the rest is as assumed
    have answered := processed _ List.mem_cons_self
    obtain ⟨after, shown, presented⟩ := (p.called r).refresh_of_presented _ presented
    rw [drive_cons, turn_of_shown answered shown]
    rw [turn_of_shown answered shown] at processed presented
    obtain ⟨sameEffect, sameRendered, -, sameBuffers⟩ := value_refresh (p.called r)
    rw [shown] at sameEffect sameRendered sameBuffers
    obtain ⟨made, result, effect, buffers, rendered⟩ := ih
      (after.complete (BufferEffect.call p.effect r).answer.outputs)
        (fun c later => processed c (List.mem_cons_of_mem _ later)) presented
    refine ⟨congrArg _ (made.trans (congrArg (BufferEffect.calls · rest) sameEffect)), result,
      effect.trans (congrArg (BufferEffect.after · rest) sameEffect), buffers.trans ?_, rendered.trans ?_⟩
    · show after.host.buffers + 1 + rest.length = p.host.buffers + (rest.length + 1)
      rw [sameBuffers]
      show p.host.buffers + 1 + rest.length = _
      omega
    · show joined (List.zipWith _ after.rendered _) _ = joined (List.zipWith _ p.rendered _) _
      rw [sameRendered]
      rfl

variable [Sample ρ σ]

/-- A run in which no call and no frame fails. -/
theorem Host.run_of_ok (h : Host φ) (effect : ε) (inputs : List (Array σ)) (frames : Nat)
    (processed : ∀ c ∈ h.calls effect inputs frames, c.answer.result = .ok ())
    (presented : ∀ scope, h.scope = some scope →
      ∀ shown ∈ scope.presents ((h.calls effect inputs frames).map fun c => c.answer.effect), shown = .ok ()) :
    h.calls effect inputs frames = BufferEffect.calls effect (h.settings.requests inputs frames) ∧
      (h.run effect inputs frames).value.result =
        .ok (joined (List.replicate h.settings.outputChannels.toNat #[]) (h.calls effect inputs frames)) ∧
      (h.run effect inputs frames).value.effect = BufferEffect.after effect (h.settings.requests inputs frames) ∧
      (h.run effect inputs frames).value.host.buffers = h.buffers + frames ⌈/⌉ h.settings.bufferSize.toNat := by
  rw [Host.calls_eq] at processed presented ⊢
  obtain ⟨made, result, after, buffers, rendered⟩ := Pass.drive_of_ok (h.settings.requests inputs frames)
    (h.start effect) processed presented
  rw [Host.value_run]
  refine ⟨made, ?_, after, ?_⟩
  · unfold Pass.conclude
    rw [result, rendered]
    rfl
  · rw [HostSettings.length_requests] at buffers
    exact buffers

end Success

/-! ## What the calls see -/

section Seen

variable {ε σ ρ : Type} [BufferEffect ε σ ρ] [Sample ρ σ] [NatCast ρ]

/-- What the calls on the requests of a run receive in an input channel is that channel, fitted to
the frames of the run. -/
theorem flatMap_received (settings : HostSettings) (positive : 0 < settings.bufferSize.toNat) (effect : ε)
    (inputs : List (Array σ)) (frames : Nat) {i : Nat} {channel : Array σ} (here : inputs[i]? = some channel) :
    ((BufferEffect.calls effect (settings.requests inputs frames)).flatMap fun c => c.received i) =
      fitted ρ channel frames := by
  have input : ∀ j, ((settings.request inputs frames j : Request σ ρ).inputs[i]?.getD #[]).toList =
      (sliceOf ρ channel (j * settings.bufferSize.toNat)
        (min settings.bufferSize.toNat (frames - j * settings.bufferSize.toNat))).toList := by
    intro j
    unfold HostSettings.request
    rw [List.getElem?_map, here]
    rfl
  calc ((BufferEffect.calls effect (settings.requests inputs frames)).flatMap fun c => c.received i)
      = (((BufferEffect.calls effect (settings.requests inputs frames)).map Call.request).flatMap
          fun r => (r.inputs[i]?.getD #[]).toList) := by
        rw [List.flatMap_map]
        rfl
    _ = (List.range (frames ⌈/⌉ settings.bufferSize.toNat)).flatMap
          fun j => ((settings.request inputs frames j : Request σ ρ).inputs[i]?.getD #[]).toList := by
        rw [BufferEffect.map_request_calls]
        unfold HostSettings.requests
        rw [List.flatMap_map]
    _ = fitted ρ channel frames := by
        simp only [input]
        exact flatMap_sliceOf channel positive frames

/-- An output channel is handed over as long as its buffer. -/
theorem HostSettings.size_output (settings : HostSettings) (inputs : List (Array σ)) (frames j : Nat) {k : Nat}
    (inside : k < settings.outputChannels.toNat) :
    ((settings.request inputs frames j : Request σ ρ).outputs[k]?.getD #[]).size =
      min settings.bufferSize.toNat (frames - j * settings.bufferSize.toNat) := by
  unfold request silentChannels
  rw [List.getElem?_replicate, if_pos inside]
  exact Array.size_replicate

/-- The calls of a run leave as many channels as the host has, when no call changes a length. -/
theorem length_outputs (keeps : BufferEffect.KeepsLengths ε) (settings : HostSettings) (effect : ε)
    (inputs : List (Array σ)) (frames : Nat) {c : Call ε σ ρ}
    (made : c ∈ BufferEffect.calls effect (settings.requests inputs frames)) :
    c.answer.outputs.length = settings.outputChannels.toNat := by
  obtain ⟨handed, before, same⟩ := BufferEffect.mem_calls made
  obtain ⟨j, -, request⟩ := List.mem_map.mp handed
  have lengths := congrArg List.length (keeps before c.request)
  rw [List.length_map, List.length_map, ← same] at lengths
  rw [lengths, ← request]
  exact List.length_replicate

/-- What the calls leave in an output channel is as long as the run, when no call changes a length. -/
theorem length_flatMap_left (keeps : BufferEffect.KeepsLengths ε) (settings : HostSettings)
    (positive : 0 < settings.bufferSize.toNat) (effect : ε) (inputs : List (Array σ)) (frames : Nat) {k : Nat}
    (inside : k < settings.outputChannels.toNat) :
    ((BufferEffect.calls effect (settings.requests inputs frames)).flatMap fun c => c.left k).length = frames := by
  have lengths : ∀ c ∈ BufferEffect.calls effect (settings.requests inputs frames : List (Request σ ρ)),
      (c.left k).length = (c.request.outputs[k]?.getD #[]).size := by
    intro c made
    obtain ⟨-, before, same⟩ := BufferEffect.mem_calls made
    rw [same]
    exact keeps.length_left before c.request k
  rw [List.length_flatMap, List.map_congr_left lengths]
  calc ((BufferEffect.calls effect (settings.requests inputs frames)).map
        fun c => (c.request.outputs[k]?.getD #[]).size).sum
      = (((BufferEffect.calls effect (settings.requests inputs frames)).map Call.request).map
          fun r => (r.outputs[k]?.getD #[]).size).sum := by
        rw [List.map_map]
        rfl
    _ = ((List.range (frames ⌈/⌉ settings.bufferSize.toNat)).map
          fun j => ((settings.request inputs frames j : Request σ ρ).outputs[k]?.getD #[]).size).sum := by
        rw [BufferEffect.map_request_calls]
        unfold HostSettings.requests
        rw [List.map_map]
        rfl
    _ = frames := by
        simp only [settings.size_output inputs frames _ inside]
        exact sum_min_buffers positive frames

end Seen

/-! ## The whole run -/

section Whole

variable {φ ε σ ρ : Type} [Screen φ] [BufferEffect ε σ ρ] [Sample ρ σ]
variable [Add ρ] [Sub ρ] [Mul ρ] [Div ρ] [Neg ρ] [Zero ρ] [One ρ] [NatCast ρ] [IntCast ρ]
  [LT ρ] [DecidableLT ρ] [BEq ρ] [RealNumber ρ]

/-- A run of any effect that keeps the lengths of its outputs, when no call and no frame fails. It
calls the effect once a buffer, always at the rate of the host. Call `j` receives for every channel
the frames of buffer `j`, of which the last may be short, and silent outputs of that length. Joined
over the calls, an input channel is the channel itself, cut or followed by silence. The run leaves a
channel for every output, as long as the run, which holds what the calls left there in order. It
counts the buffers, and the effect goes through the calls one after the other; recording them made
no difference to the run. -/
theorem Host.run_splits_and_joins (h : Host φ) (effect : ε) (inputs : List (Array σ)) (frames : Nat)
    (keeps : BufferEffect.KeepsLengths ε)
    (processed : ∀ c ∈ h.calls effect inputs frames, c.answer.result = .ok ())
    (presented : ∀ scope, h.scope = some scope →
      ∀ shown ∈ scope.presents ((h.calls effect inputs frames).map fun c => c.answer.effect), shown = .ok ()) :
    (h.calls effect inputs frames).length = frames ⌈/⌉ h.settings.bufferSize.toNat ∧
    (∀ j c, (h.calls effect inputs frames)[j]? = some c →
      c.request.rate = h.rate ρ ∧ c.request.inputs.length = inputs.length ∧
      (∀ channel ∈ c.request.inputs,
        channel.size = min h.settings.bufferSize.toNat (frames - j * h.settings.bufferSize.toNat)) ∧
      c.request.outputs = List.replicate h.settings.outputChannels.toNat
        (Array.replicate (min h.settings.bufferSize.toNat (frames - j * h.settings.bufferSize.toNat))
          (Sample.silence ρ))) ∧
    (∀ i channel, inputs[i]? = some channel →
      ((h.calls effect inputs frames).flatMap fun c => c.received i) =
        channel.toList.take frames ++ List.replicate (frames - channel.size) (Sample.silence ρ)) ∧
    (∃ rendered, (h.run effect inputs frames).value.result = .ok rendered ∧
      rendered.length = h.settings.outputChannels.toNat ∧
      ∀ k out, rendered[k]? = some out →
        out.size = frames ∧ out.toList = (h.calls effect inputs frames).flatMap fun c => c.left k) ∧
    (h.run effect inputs frames).value.host.buffers = h.buffers + frames ⌈/⌉ h.settings.bufferSize.toNat ∧
    h.calls effect inputs frames = BufferEffect.calls effect ((h.calls effect inputs frames).map Call.request) ∧
    (h.run effect inputs frames).value.effect =
      BufferEffect.after effect ((h.calls effect inputs frames).map Call.request) ∧
    (h.run effect inputs frames).value =
      ⟨(h.recorded effect inputs frames).result, (h.recorded effect inputs frames).host,
        (h.recorded effect inputs frames).effect.effect⟩ := by
  obtain ⟨calls, result, after, buffers⟩ := h.run_of_ok effect inputs frames processed presented
  rw [calls] at result ⊢
  rw [BufferEffect.map_request_calls]
  refine ⟨?_, ?_, ?_, ⟨_, result, ?_⟩, buffers, rfl, after, h.run_eq_recorded effect inputs frames⟩
  · rw [BufferEffect.length_calls, HostSettings.length_requests]
  · intro j c jth
    rw [BufferEffect.getElem?_calls, Option.map_eq_some_iff] at jth
    obtain ⟨r, handed, rfl⟩ := jth
    have same : r = h.settings.request inputs frames j := h.settings.getElem?_requests inputs frames j r handed
    subst same
    refine ⟨rfl, List.length_map _, ?_, rfl⟩
    intro slice received
    obtain ⟨channel, -, rfl⟩ := List.mem_map.mp received
    exact size_sliceOf channel _ _
  · intro i channel here
    exact flatMap_received h.settings h.hasFrames effect inputs frames here
  · obtain ⟨length, joins⟩ :=
      joined_silence fun c made => length_outputs keeps h.settings effect inputs frames made
    refine ⟨length, fun k out kth => ?_⟩
    obtain ⟨inside, left⟩ := joins k out kth
    refine ⟨?_, left⟩
    rw [← Array.length_toList, left]
    exact length_flatMap_left keeps h.settings h.hasFrames effect inputs frames inside

end Whole

/-- An effect that copies the first input channel to every output and notes the lengths it was
called with. -/
structure Echo where
  lengths : List Nat

namespace Echo

instance : BufferEffect Echo Float32 Float where
  name _ := "echo"
  process e inputs outputs _ :=
    return match inputs with
      | [] => .refused e outputs (.input .noInputChannels)
      | input :: _ =>
        ⟨.ok (), ⟨e.lengths ++ [input.size]⟩, outputs.map fun channel => sliceOf Float input 0 channel.size⟩
  plot _ := none
  reset _ := ⟨[]⟩

theorem keepsLengths : BufferEffect.KeepsLengths Echo := by
  intro e r
  rcases r with ⟨inputs, outputs, rate⟩
  cases inputs with
  | nil => rfl
  | cons input rest =>
    show (outputs.map fun channel => sliceOf Float input 0 channel.size).map Array.size = outputs.map Array.size
    rw [List.map_map]
    exact List.map_congr_left fun channel _ => size_sliceOf input 0 channel.size

theorem presents_ok {φ : Type} [Screen φ] (effects : List Echo) :
    ∀ (s : Scope φ), ∀ shown ∈ s.presents effects, shown = .ok () := by
  induction effects with
  | nil => exact fun _ _ absent => nomatch absent
  | cons effect rest ih =>
    intro s shown made
    rcases List.mem_cons.mp made with first | later
    · exact first
    · exact ih _ shown later

end Echo

/-- A host for three frames a buffer and two outputs, with a scope. -/
def smallHost : Host MemoryScreen where
  settings := ⟨48000, 3, 2⟩
  scope := some ⟨⟨"echo", 0, none⟩, 4, 2, 0, by decide⟩
  hasRate := by decide
  hasFrames := by decide
  hasOutput := by decide

/-- Seven frames of a channel of five samples and one without any: the first channel ends inside the
second buffer, and the third buffer has one frame. -/
theorem Host.run_splits_and_joins_echo :
    BufferEffect.KeepsLengths Echo ∧
    (∀ c ∈ smallHost.calls (⟨[]⟩ : Echo) [#[1, 2, 3, 4, 5], #[]] 7, c.answer.result = .ok ()) ∧
    (∀ scope, smallHost.scope = some scope → ∀ shown ∈ scope.presents
      ((smallHost.calls (⟨[]⟩ : Echo) [#[1, 2, 3, 4, 5], #[]] 7).map fun c => c.answer.effect), shown = .ok ()) ∧
    (smallHost.calls (⟨[]⟩ : Echo) [#[1, 2, 3, 4, 5], #[]] 7).length = 3 ∧
    ((smallHost.calls (⟨[]⟩ : Echo) [#[1, 2, 3, 4, 5], #[]] 7).flatMap fun c => c.received 0) =
    [1, 2, 3, 4, 5, 0, 0] ∧
    (∃ rendered, (smallHost.run (⟨[]⟩ : Echo) [#[1, 2, 3, 4, 5], #[]] 7).value.result = .ok rendered ∧
      rendered.length = 2 ∧ ∀ (k : Nat) (out : Array Float32), rendered[k]? = some out → out.size = 7) ∧
    (smallHost.run (⟨[]⟩ : Echo) [#[1, 2, 3, 4, 5], #[]] 7).value.host.buffers = 3 ∧
    (smallHost.run (⟨[]⟩ : Echo) [#[1, 2, 3, 4, 5], #[]] 7).value.effect.lengths = [3, 3, 1] := by
  have calls : smallHost.calls (⟨[]⟩ : Echo) [#[1, 2, 3, 4, 5], #[]] 7 =
      BufferEffect.calls (⟨[]⟩ : Echo) (smallHost.settings.requests [#[1, 2, 3, 4, 5], #[]] 7) :=
    (smallHost.calls_eq _ _ _).trans rfl
  have processed : ∀ c ∈ smallHost.calls (⟨[]⟩ : Echo) [#[1, 2, 3, 4, 5], #[]] 7, c.answer.result = .ok () := by
    rw [calls]
    intro c made
    obtain ⟨handed, before, same⟩ := BufferEffect.mem_calls made
    obtain ⟨j, -, request⟩ := List.mem_map.mp handed
    rw [same, ← request]
    rfl
  have presented : ∀ scope, smallHost.scope = some scope → ∀ shown ∈ scope.presents
      ((smallHost.calls (⟨[]⟩ : Echo) [#[1, 2, 3, 4, 5], #[]] 7).map fun c => c.answer.effect), shown = .ok () :=
    fun scope _ => Echo.presents_ok _ scope
  obtain ⟨length, -, received, ⟨rendered, result, channels, outputs⟩, buffers, -, after, -⟩ :=
    Host.run_splits_and_joins smallHost (⟨[]⟩ : Echo) [#[1, 2, 3, 4, 5], #[]] 7 Echo.keepsLengths
      processed presented
  rw [calls, BufferEffect.map_request_calls] at after
  exact ⟨Echo.keepsLengths, processed, presented, length, received 0 _ rfl,
    ⟨rendered, result, channels, fun k out kth => (outputs k out kth).1⟩, buffers, congrArg Echo.lengths after⟩

end BufferScope
