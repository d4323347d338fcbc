/-
Sessions: runs on one host, one after the other, with failures of the effect and of the screen
anywhere in them. `Stage.session_account` says how each run ends, what the counters of the host and of
its scope count over all runs, and that a scope which never fails changes nothing else.
-/
import BufferScope.Proofs.Host.Watched

namespace BufferScope

/-- A host and the effect at hand. -/
structure Stage (φ ε : Type) where
  host : Host φ
  effect : ε

/-- A run that is asked for. Before it, the effect may be changed in any way, such as by a reset. -/
structure Job (ε σ : Type) where
  prepare : ε → ε := id
  inputs : List (Array σ)
  frames : Nat

variable {φ ε σ ρ : Type}

/-! ## Frames that the screen took -/

/-- The frames that a screen took are those of the turns at which it took one, in the same order. -/
theorem Turn.map_blit_presented (turns : List (Turn ε σ ρ)) :
    (turns.filter Turn.presented).map Turn.blit = ((turns.filterMap Turn.blit).filter Blit.taken).map some := by
  induction turns with
  | nil => rfl
  | cons t rest ih =>
    rcases t with ⟨call, _ | b⟩
    · simpa [Turn.presented] using ih
    · by_cases taken : b.taken <;> simpa [Turn.presented, taken] using ih

/-- The scope after the frames of some turns. -/
def Scope.showingAll [Screen φ] (s : Scope φ) (turns : List (Turn ε σ ρ)) : Scope φ :=
  turns.foldl (fun scope t => scope.showing t.blit) s

/-- A scope keeps its size over any frames, and counts those that its screen took. -/
theorem Scope.showingAll_spec [Screen φ] (turns : List (Turn ε σ ρ)) : ∀ s : Scope φ,
    (s.showingAll turns).width = s.width ∧ (s.showingAll turns).height = s.height ∧
      (s.showingAll turns).frames = s.frames + turns.countP Turn.presented := by
  induction turns with
  | nil => exact fun _ => ⟨rfl, rfl, rfl⟩
  | cons t rest ih =>
    intro s
    obtain ⟨width, height, frames⟩ := ih (s.showing t.blit)
    refine ⟨width.trans (s.width_showing _), height.trans (s.height_showing _), frames.trans ?_⟩
    rw [List.countP_cons]
    unfold Turn.presented
    cases t.blit with
    | none => simp [Scope.showing]
    | some b =>
      simp only [Scope.showing, Option.any_some]
      omega

/-! ## How a turn can go -/

variable [BufferEffect ε σ ρ]
variable [Add ρ] [Sub ρ] [Mul ρ] [Div ρ] [Neg ρ] [Zero ρ] [One ρ] [NatCast ρ] [IntCast ρ]
  [LT ρ] [DecidableLT ρ] [BEq ρ] [RealNumber ρ]

/-- How a turn can go on a host with the given scope. The call fails, and there is no frame and
nothing is counted; or it succeeds and there is nothing to show, and the host counts the buffer but
the scope does not; or the screen is handed the plot as the call left it, and host and scope both
count or do not count, as the screen answers. -/
inductive Turn.Goes (scope : Option (Scope φ)) (t : Turn ε σ ρ) : Prop
  | failed (error : AudioError) (call : t.call.answer.result = .error error) (unshown : t.blit = none)
      (host : t.completed = false) (frames : t.presented = false)
  | blank (call : t.call.answer.result = .ok ())
      (nothing : scope = none ∨ BufferEffect.plot t.call.answer.effect = none)
      (unshown : t.blit = none) (host : t.completed = true) (frames : t.presented = false)
  | shown (s : Scope φ) (plot : Plot ρ) (b : Blit) (call : t.call.answer.result = .ok ()) (onScreen : scope = some s)
      (plotted : BufferEffect.plot t.call.answer.effect = some plot) (blit : t.blit = some b)
      (drawn : plot.render s.width s.height = .ok b.frame) (host : t.completed = b.taken)
      (frames : t.presented = b.taken)

/-- A turn whose frame is the picture of the effect after the call goes in one of the three ways. -/
theorem Turn.goes_of_frame {scope : Option (Scope φ)} {t : Turn ε σ ρ}
    (frame : t.blit.map Blit.frame =
      if t.call.succeeded then scope.bind fun s => s.picture? t.call.answer.effect else none) : t.Goes scope := by
  rcases t with ⟨⟨request, ⟨result, effect, outputs⟩⟩, blit⟩
  rcases result with error | _
  · have unshown : blit = none := Option.map_eq_none_iff.mp frame
    exact .failed error rfl unshown rfl (by rw [Turn.presented, unshown]; rfl)
  have frame : blit.map Blit.frame = scope.bind fun s => s.picture? effect := frame
  rcases scope with _ | s
  · have unshown : blit = none := Option.map_eq_none_iff.mp frame
    subst unshown
    exact .blank rfl (.inl rfl) rfl rfl rfl
  rcases plotted : BufferEffect.plot effect with _ | plot
  · have unshown : blit = none := by
      refine Option.map_eq_none_iff.mp (frame.trans ?_)
      simp [Scope.picture?, plotted]
    subst unshown
    exact .blank rfl (.inr plotted) rfl rfl rfl
  · obtain ⟨canvas, drawn, picture⟩ := s.picture?_eq_some plotted
    obtain ⟨b, rfl, rfl⟩ := Option.map_eq_some_iff.mp (frame.trans picture)
    exact .shown s plot b rfl rfl plotted rfl drawn rfl rfl

variable [Screen φ]

/-- The size of a scope is all that matters to how a turn goes, and frames do not change it. -/
theorem Turn.Goes.of_showingAll {scope : Option (Scope φ)} {turns : List (Turn ε σ ρ)} {t : Turn ε σ ρ}
    (goes : t.Goes (scope.map (·.showingAll turns))) : t.Goes scope := by
  cases goes with
  | failed error call unshown host frames => exact .failed error call unshown host frames
  | blank call nothing unshown host frames =>
    exact .blank call (nothing.imp_left Option.map_eq_none_iff.mp) unshown host frames
  | shown s plot b call onScreen plotted blit drawn host frames =>
    obtain ⟨first, same, rfl⟩ := Option.map_eq_some_iff.mp onScreen
    obtain ⟨width, height, -⟩ := first.showingAll_spec turns
    rw [width, height] at drawn
    exact .shown first plot b call same plotted blit drawn host frames

/-! ## One run -/

variable [Sample ρ σ]

/-- The account of a run, turn by turn. -/
structure Host.Account (h : Host φ) (effect : ε) (inputs : List (Array σ)) (frames : Nat) : Prop where
  /-- An effect that records its calls notes the calls of the turns, and changes nothing else. -/
  calls : h.calls effect inputs frames = (h.turns effect inputs frames).map Turn.call
  recorded : (h.run effect inputs frames).value = ⟨(h.recorded effect inputs frames).result,
    (h.recorded effect inputs frames).host, (h.recorded effect inputs frames).effect.effect⟩
  /-- A screen that records its frames notes the frames of the turns, and changes nothing else. -/
  blits : h.blits effect inputs frames = (h.turns effect inputs frames).filterMap Turn.blit
  watched : (h.run effect inputs frames).value = ⟨(h.watched.run effect inputs frames).value.result,
    (h.watched.run effect inputs frames).value.host.unwatched, (h.watched.run effect inputs frames).value.effect⟩
  /-- Each call meets the effect as the call before left it, and hands over the next buffer. -/
  history :
    (h.turns effect inputs frames).map Turn.call <+: BufferEffect.calls effect (h.settings.requests inputs frames)
  /-- Every buffer is completed, or the run ends with the error of its last turn, the first to fail. -/
  ends : (∃ rendered, (h.run effect inputs frames).value.result = .ok rendered ∧
      (h.turns effect inputs frames).length = frames ⌈/⌉ h.settings.bufferSize.toNat ∧
      ∀ t ∈ h.turns effect inputs frames, t.result = .ok ()) ∨
    ∃ error before last, (h.run effect inputs frames).value.result = .error error ∧
      h.turns effect inputs frames = before ++ [last] ∧ (∀ t ∈ before, t.result = .ok ()) ∧
      last.result = .error error
  /-- The last call, failed or not and shown or not, is the one that leaves the effect. -/
  left : (h.run effect inputs frames).value.effect =
    ((h.turns effect inputs frames).getLast?.map fun t => t.call.answer.effect).getD effect
  goes : ∀ t ∈ h.turns effect inputs frames, t.Goes h.scope

theorem Host.account (h : Host φ) (effect : ε) (inputs : List (Array σ)) (frames : Nat) :
    h.Account effect inputs frames where
  calls := h.calls_eq_turns effect inputs frames
  recorded := h.run_eq_recorded effect inputs frames
  blits := (h.run_eq_watched effect inputs frames).2
  watched := (h.run_eq_watched effect inputs frames).1
  history := Pass.calls_turns_prefix _ (h.start effect)
  ends := by
    rw [value_run]
    rcases Pass.drive_ends (h.settings.requests inputs frames) (h.start effect) with
      ⟨through, length, completed⟩ | ⟨error, before, last, failed, split, completed, isLast⟩
    · rw [HostSettings.length_requests] at length
      exact .inl ⟨_, by rw [Pass.conclude, through]; rfl, length, completed⟩
    · exact .inr ⟨error, before, last, by rw [Pass.conclude, failed]; rfl, split, completed, isLast⟩
  left := by
    rw [value_run]
    exact (Pass.after_drive (h.settings.requests inputs frames) (h.start effect)).1
  goes t member := Turn.goes_of_frame (Pass.frame_of_turn _ (h.start effect) t member)

/-! ## Sessions -/

namespace Stage

def run (s : Stage φ ε) (job : Job ε σ) : Rendered φ ε σ :=
  (s.host.run (job.prepare s.effect) job.inputs job.frames).value

/-- The host and the effect after a run, failed or not. -/
def next (s : Stage φ ε) (job : Job ε σ) : Stage φ ε := ⟨(s.run job).host, (s.run job).effect⟩

/-- The host and the effect after a session. -/
def after (s : Stage φ ε) (jobs : List (Job ε σ)) : Stage φ ε := jobs.foldl next s

/-- What the runs of a session return. -/
def results (s : Stage φ ε) : List (Job ε σ) → List (Except AudioError (List (Array σ)))
  | [] => []
  | job :: rest => (s.run job).result :: (s.next job).results rest

/-- The turns of a session, run after run. -/
def turns (s : Stage φ ε) : List (Job ε σ) → List (Turn ε σ ρ)
  | [] => []
  | job :: rest => s.host.turns (job.prepare s.effect) job.inputs job.frames ++ (s.next job).turns rest

theorem results_cons (s : Stage φ ε) (job : Job ε σ) (rest : List (Job ε σ)) :
    s.results (job :: rest) = (s.run job).result :: (s.next job).results rest := rfl

theorem after_cons (s : Stage φ ε) (job : Job ε σ) (rest : List (Job ε σ)) :
    s.after (job :: rest) = (s.next job).after rest := rfl

theorem next_host (s : Stage φ ε) (job : Job ε σ) :
    (s.next job).host.buffers =
        s.host.buffers + (s.host.turns (job.prepare s.effect) job.inputs job.frames).countP Turn.completed ∧
      (s.next job).host.scope =
        s.host.scope.map (·.showingAll (s.host.turns (job.prepare s.effect) job.inputs job.frames)) := by
  unfold next run
  rw [Host.value_run]
  exact (Pass.after_drive _ (s.host.start (job.prepare s.effect))).2

/-- What a session leaves: a buffer more for every completed turn of any run, and the scope after all
their frames. -/
theorem after_host (jobs : List (Job ε σ)) : ∀ s : Stage φ ε,
    (s.after jobs).host.buffers = s.host.buffers + (s.turns jobs).countP Turn.completed ∧
      (s.after jobs).host.scope = s.host.scope.map (·.showingAll (s.turns jobs)) := by
  induction jobs with
  | nil => exact fun s => ⟨rfl, by simp [after, turns, Scope.showingAll]⟩
  | cons job rest ih =>
    intro s
    obtain ⟨buffers, scope⟩ := s.next_host job
    obtain ⟨laterBuffers, laterScope⟩ := ih (s.next job)
    rw [after_cons, laterBuffers, laterScope, buffers, scope, turns, List.countP_append, Option.map_map]
    refine ⟨by omega, congrArg (Option.map · s.host.scope) (funext fun scope => ?_)⟩
    unfold Scope.showingAll
    rw [Function.comp_apply, List.foldl_append]

theorem goes_of_mem_turns (jobs : List (Job ε σ)) :
    ∀ s : Stage φ ε, ∀ t ∈ s.turns jobs, t.Goes s.host.scope := by
  induction jobs with
  | nil => exact fun _ => List.forall_mem_nil _
  | cons job rest ih =>
    intro s t member
    rw [turns] at member
    rcases List.mem_append.mp member with now | later
    · exact (s.host.account (job.prepare s.effect) job.inputs job.frames).goes t now
    · have goes := ih (s.next job) t later
      rw [(s.next_host job).2] at goes
      exact goes.of_showingAll

/-- A screen that takes whatever it is handed takes every frame of a session. -/
theorem answer_of_mem_turns (steady : ∀ (screen : φ) frame, (Screen.blit screen frame).value.1 = .ok ())
    (jobs : List (Job ε σ)) : ∀ s : Stage φ ε, ∀ t ∈ s.turns jobs, ∀ b, t.blit = some b →
    b.answer = .ok () := by
  induction jobs with
  | nil => exact fun _ => List.forall_mem_nil _
  | cons job rest ih =>
    intro s t member b shown
    rw [turns] at member
    rcases List.mem_append.mp member with now | later
    · apply Host.answer_of_mem_blits steady s.host (job.prepare s.effect) job.inputs job.frames
      rw [(s.host.run_eq_watched (job.prepare s.effect) job.inputs job.frames).2]
      exact List.mem_filterMap.mpr ⟨t, now, shown⟩
    · exact ih (s.next job) t later b shown

def unscoped (s : Stage φ ε) : Stage φ ε := ⟨s.host.unscoped, s.effect⟩

/-- A session in which the screen takes every frame returns, and leaves the effect, as the session
without a scope. -/
theorem session_unscoped (jobs : List (Job ε σ)) : ∀ s : Stage φ ε,
    (∀ t ∈ s.turns jobs, ∀ b, t.blit = some b → b.answer = .ok ()) →
      s.unscoped.results jobs = s.results jobs ∧ (s.unscoped.after jobs).effect = (s.after jobs).effect := by
  induction jobs with
  | nil => exact fun _ _ => ⟨rfl, rfl⟩
  | cons job rest ih =>
    intro s taken
    rw [turns] at taken
    have same : s.unscoped.run job = ⟨(s.run job).result, (s.run job).host.unscoped, (s.run job).effect⟩ :=
      s.host.run_unscoped _ _ _ fun t now => taken t (List.mem_append_left _ now)
    have next : s.unscoped.next job = (s.next job).unscoped := by
      unfold next
      rw [same]
      rfl
    obtain ⟨results, effect⟩ := ih (s.next job) fun t later => taken t (List.mem_append_right _ later)
    rw [results_cons, results_cons, after_cons, after_cons, same, next]
    exact ⟨congrArg _ results, effect⟩

/-- Any session on any host, with or without a scope, with any effect and any screen. Every run gives
its account: it stops at the first call or frame that fails and returns that error. Over all runs the
host has counted the buffers that were processed and presented without an error, and its scope the
frames that the screen took; frame `k` of those is the plot of the effect as it was right after the
call, at the size of the scope. Where the screen takes every frame, the session returns and leaves the
effect as one without a scope. -/
theorem session_account (s : Stage φ ε) (jobs : List (Job ε σ)) :
    (∀ (j : Nat) job, jobs[j]? = some job → (s.after (jobs.take j)).host.Account
      (job.prepare (s.after (jobs.take j)).effect) job.inputs job.frames) ∧
    (s.after jobs).host.buffers = s.host.buffers + (s.turns jobs).countP Turn.completed ∧
    (∀ t ∈ s.turns jobs, t.Goes s.host.scope) ∧
    (∀ scope, s.host.scope = some scope → ∃ last, (s.after jobs).host.scope = some last ∧
      last.width = scope.width ∧ last.height = scope.height ∧
      last.frames = scope.frames + ((s.turns jobs).filterMap Turn.blit).countP Blit.taken ∧
      ∀ (k : Nat) (b : Blit), (((s.turns jobs).filterMap Turn.blit).filter Blit.taken)[k]? = some b →
        ∃ (t : Turn ε σ ρ) (plot : Plot ρ), ((s.turns jobs).filter Turn.presented)[k]? = some t ∧
          t.blit = some b ∧
          BufferEffect.plot t.call.answer.effect = some plot ∧ plot.render scope.width scope.height = .ok b.frame) ∧
    ((∀ t ∈ s.turns jobs, ∀ b, t.blit = some b → b.answer = .ok ()) →
      s.results jobs = s.unscoped.results jobs ∧ (s.after jobs).effect = (s.unscoped.after jobs).effect) := by
  obtain ⟨buffers, left⟩ := s.after_host jobs
  have goes := s.goes_of_mem_turns jobs
  refine ⟨fun j job _ => Host.account .., buffers, goes, ?_, fun taken => ?_⟩
  · intro scope onScreen
    obtain ⟨width, height, frames⟩ := scope.showingAll_spec (s.turns jobs)
    have order := Turn.map_blit_presented (s.turns jobs)
    refine ⟨_, by rw [left, onScreen]; rfl, width, height, ?_, fun k b kth => ?_⟩
    · have sizes := congrArg List.length order
      rw [List.length_map, List.length_map, ← List.countP_eq_length_filter, ← List.countP_eq_length_filter] at sizes
      rw [frames, sizes]
    · have kth : (((s.turns jobs).filter Turn.presented)[k]?).map Turn.blit = some (some b) := by
        rw [← List.getElem?_map, order, List.getElem?_map, kth]
        rfl
      obtain ⟨t, here, shown⟩ := Option.map_eq_some_iff.mp kth
      have made := List.mem_of_mem_filter (List.mem_of_getElem? here)
      cases goes t made with
      | failed _ _ unshown => rw [unshown] at shown; cases shown
      | blank _ _ unshown => rw [unshown] at shown; cases shown
      | shown first plot c _ same plotted blit drawn =>
        cases onScreen.symm.trans same
        cases shown.symm.trans blit
        exact ⟨t, plot, here, shown, plotted, drawn⟩
  · obtain ⟨results, effect⟩ := s.session_unscoped jobs taken
    exact ⟨results.symm, effect.symm⟩

end Stage

/-- A screen that takes a number of frames and then fails. -/
structure WornScreen where
  frames : Nat

instance : Screen WornScreen where
  title _ := "worn"
  blit s _ :=
    return match s.frames with
      | 0 => (.error (.render .screenUnavailable), s)
      | frames + 1 => (.ok (), ⟨frames⟩)

/-- An effect that counts its buffers, and has a plot from the second on. -/
structure Counter where
  count : Nat

instance : BufferEffect Counter Float32 Float where
  name _ := "counter"
  process e _ outputs _ := return ⟨.ok (), ⟨e.count + 1⟩, outputs⟩
  plot e := if e.count < 2 then none else some (Plot.spanning 1)
  reset _ := ⟨0⟩

namespace Stage

/-- A host for two frames a buffer, with a scope on a screen that takes one frame. -/
def worn : Stage WornScreen Counter where
  host := ⟨⟨48000, 2, 1⟩, some ⟨⟨1⟩, 4, 3, 0, by decide⟩, 0, by decide, by decide, by decide⟩
  effect := ⟨0⟩

/-- Five frames, and one more with the effect reset. -/
def twice : List (Job Counter Float32) := [⟨id, [], 5⟩, ⟨BufferEffect.reset, [], 1⟩]

/-- The first run goes through a buffer without a plot and one that is shown, and fails at the frame
of the third; the second run has one buffer without a plot. Of four buffers the host counts three, and
the scope one. A run that ends before the screen fails goes as it does without a scope. -/
theorem session_account_worn :
    (worn.host.Account (⟨0⟩ : Counter) [] 5 ∧
      (worn.turns twice).map Turn.completed = [true, true, false, true] ∧
      (worn.after twice).host.buffers = 3) ∧
    (∃ last, (worn.after twice).host.scope = some last ∧ last.width = 4 ∧ last.frames = 1) ∧
    (worn.results [⟨id, [], 4⟩] = worn.unscoped.results [⟨id, [], 4⟩] ∧
      (worn.after [⟨id, [], 4⟩]).effect = (worn.unscoped.after [⟨id, [], 4⟩]).effect) := by
  -- the first run leaves two buffers and one frame, and an effect that three calls have advanced
  have first : worn.next ⟨id, [], 5⟩ =
      ⟨⟨⟨48000, 2, 1⟩, some ⟨⟨0⟩, 4, 3, 1, by decide⟩, 2, by decide, by decide,
      by decide⟩, ⟨3⟩⟩ := by
    unfold next run
    rw [Host.value_run]
    rfl
  have completed : (worn.turns twice).map Turn.completed = [true, true, false, true] := by
    unfold twice turns
    rw [first]
    rfl
  have taken : ((worn.turns twice).filterMap Turn.blit).map Blit.taken = [true, false] := by
    unfold twice turns
    rw [first]
    rfl
  obtain ⟨account, buffers, -, frames, -⟩ := session_account worn twice
  obtain ⟨last, onScreen, width, -, count, -⟩ := frames _ rfl
  obtain ⟨-, -, -, -, unseen⟩ := session_account worn [⟨id, [], 4⟩]
  refine ⟨⟨account 0 _ rfl, completed, ?_⟩, ⟨last, onScreen, width, ?_⟩, unseen ?_⟩
  · rw [buffers, ← Function.id_comp Turn.completed, ← List.countP_map, completed]
    rfl
  · rw [count, ← Function.id_comp Blit.taken, ← List.countP_map, taken]
    rfl
  · rintro t (_ | ⟨_, _ | ⟨_, none⟩⟩) b shown
    · cases shown
    · have answer : some (.ok ()) = some b.answer := congrArg (Option.map Blit.answer) shown
      exact (Option.some_inj.mp answer).symm
    · cases none

end Stage

end BufferScope
