/-
The stages of a render, apart from what they log: what each of them hands on, how far a render gets, and what
each does to the tree of files. Nothing is changed but by the scope, and by a scope only for its frames.
-/
import BufferScope.Command.Run
import BufferScope.Proofs.Host.FanOut
import BufferScope.Proofs.Host.Resume
import BufferScope.Proofs.Screen.Frames
import BufferScope.Proofs.Wave.Reader

namespace BufferScope.Command

open Relation (ReflTransGen)

variable {windows : WindowSystem}

/-! ## The stages, apart from what they log -/

theorem value_render (r : RenderRequest) (files : FileTree) :
    (render r files windows).value = match (settingsFor r files).value with
      | .error error => ⟨.error error, files⟩
      | .ok settings => match (sourceFor r settings.host files).value with
        | .error error => ⟨.error error, files⟩
        | .ok source => (renderFrom r settings.display source files windows).value := by
  unfold render
  rw [Logged.value_bind]
  rcases (settingsFor r files).value with error | settings
  · rfl
  dsimp only
  rw [Logged.value_bind]
  cases (sourceFor r settings.host files).value <;> rfl

/-- The channels and the rate of an input file are those that are rendered. -/
theorem value_sourceFor {r : RenderRequest} {files : FileTree} {input : String} {clip : Wave.Clip}
    (given : r.input = some input) (decoded : (Wave.load files input).value = .ok clip) (host : HostSettings) :
    (sourceFor r host files).value = .ok ⟨clip.channels, { host with sampleRate := clip.sampleRate }⟩ := by
  unfold sourceFor
  rw [given]
  dsimp only
  rw [Logged.value_bind, decoded]
  dsimp only
  split <;> rfl

theorem value_renderFrom (r : RenderRequest) (display : DisplaySettings) (source : Source) (files : FileTree) :
    (renderFrom r display source files windows).value = match prepare r source with
      | .error error => ⟨.error error, files⟩
      | .ok ((host : Host (ConfiguredScreen windows)), frames) => match (withScopeFor display host files).value with
        | (.error error, files) => ⟨.error error, files⟩
        | (.ok host, files) => (renderWith r source host frames files).value := by
  unfold renderFrom
  rcases prepare r source with error | ⟨host, frames⟩
  · rfl
  dsimp only
  rw [Logged.value_bind]
  rcases (withScopeFor display host files).value with ⟨_ | _, files⟩ <;> rfl

theorem value_renderWith (r : RenderRequest) (source : Source) (host : Host (ConfiguredScreen windows)) (frames : ℕ)
    (files : FileTree) :
    (renderWith r source host frames files).value =
      match (host.run r.effect.build.value source.channels frames).value with
      | ⟨.error error, host, _⟩ => ⟨.error (.failed error), filesAfter host files⟩
      | ⟨.ok audio, host, _⟩ => (finish r host frames audio (filesAfter host files)).value := by
  unfold renderWith
  rw [Logged.value_bind, Logged.value_bind]
  rcases (host.run r.effect.build.value source.channels frames).value with ⟨_ | audio, host, effect⟩
  · rfl
  dsimp only
  split <;> rfl

/-- A render whose run fails ends with it. -/
theorem value_renderWith_of_error {r : RenderRequest} {source : Source} {host : Host (ConfiguredScreen windows)}
    {frames : ℕ} {error : AudioError}
    (failed : (host.run r.effect.build.value source.channels frames).value.result = .error error) (files : FileTree) :
    (renderWith r source host frames files).value = ⟨.error (.failed error),
      filesAfter (host.run r.effect.build.value source.channels frames).value.host files⟩ := by
  rw [value_renderWith]
  generalize (host.run r.effect.build.value source.channels frames).value = ended at failed ⊢
  obtain ⟨_, host, effect⟩ := ended
  cases failed
  rfl

/-- A render whose stages before the run go through comes to its run. -/
theorem value_render_of_shown {r : RenderRequest} {files opened : FileTree} {settings : Settings} {source : Source}
    {plain host : Host (ConfiguredScreen windows)} {frames : ℕ}
    (settled : (settingsFor r files).value = .ok settings)
    (heard : (sourceFor r settings.host files).value = .ok source) (prepared : prepare r source = .ok (plain, frames))
    (shown : (withScopeFor settings.display plain files).value = (.ok host, opened)) :
    (render r files windows).value = (renderWith r source host frames opened).value := by
  simp only [value_render, settled, heard, value_renderFrom, prepared, shown]

theorem value_finish {φ : Type} {r : RenderRequest} {path : String} (kept : r.output = some path) (host : Host φ)
    (frames : ℕ) (audio : List (Array Float32)) (files : FileTree) :
    (finish r host frames audio files).value =
      match (Wave.save files path ⟨host.settings.sampleRate, audio⟩).value with
      | (.error error, files) => ⟨.error (.notWritten path error), files⟩
      | (.ok (), files) =>
        ⟨.ok ("Rendered " ++ toString frames ++ " frames of '" ++ r.effect.name ++ "' " ++ "to " ++ path ++ "\n"),
          files⟩ := by
  unfold finish
  rw [kept]
  dsimp only
  rw [Logged.value_bind]
  rcases (Wave.save files path ⟨host.settings.sampleRate, audio⟩).value with ⟨_ | _, files⟩ <;> rfl

/-! ## What each stage keeps -/

theorem create_eq_ok {φ : Type} {settings : HostSettings} {host : Host φ}
    (created : Host.create settings = .ok host) :
    host.settings = settings ∧ host.scope = none := by
  unfold Host.create at created
  split at created
  · cases created
  split at created
  · cases created
  split at created
  · cases created
  · cases created
    exact ⟨rfl, rfl⟩

theorem prepare_eq_ok {φ : Type} {r : RenderRequest} {source : Source} {host : Host φ} {frames : ℕ}
    (prepared : prepare r source = .ok (host, frames)) :
    Host.create source.host = .ok host ∧ framesFor r source host = .ok frames := by
  unfold prepare at prepared
  obtain ⟨made, created, rest⟩ := bind_eq_ok.mp prepared
  obtain ⟨count, counted, same⟩ := bind_eq_ok.mp rest
  cases same
  exact ⟨mapError_eq_ok.mp created, counted⟩

/-- A scope leaves the settings of the host as they are. -/
theorem settings_withScopeFor {display : DisplaySettings} {plain host : Host (ConfiguredScreen windows)}
    {files before : FileTree} (shown : (withScopeFor display plain files).value = (.ok host, before)) :
    host.settings = plain.settings := by
  unfold withScopeFor at shown
  split at shown
  · rw [Logged.value_bind] at shown
    rcases opened : (ConfiguredScreen.create display files windows).value with ⟨error | screen, files⟩
    · rw [opened] at shown
      cases shown
    rw [opened] at shown
    dsimp only at shown
    rw [Logged.value_bind] at shown
    rcases attached : (Scope.ofSettings screen display).value with error | scope
    · rw [attached] at shown
      cases shown
    · rw [attached] at shown
      cases shown
      rfl
  · cases shown
    rfl

/-- Without a time, as many frames are rendered as the longest channel has; with one, as many as the host
counts for it. -/
theorem framesFor_eq_ok {φ : Type} {r : RenderRequest} {source : Source} {host : Host φ} {frames : ℕ}
    (counted : framesFor r source host = .ok frames) (heard : source.channels ≠ []) :
    (r.seconds = none → frames = Wave.longest source.channels) ∧
      ∀ seconds, r.seconds = some seconds → host.framesForSeconds seconds = .ok frames := by
  unfold framesFor at counted
  constructor
  · intro untimed
    rw [untimed] at counted
    dsimp only at counted
    rw [if_neg (by simpa using heard)] at counted
    cases counted
    rfl
  · intro seconds timed
    rw [timed] at counted
    dsimp only at counted
    exact mapError_eq_ok.mp counted

/-- How far a render gets: it fails before anything is opened, or its scope is refused, or it comes to the run. -/
theorem render_stages (r : RenderRequest) (files : FileTree) :
    (∃ error, (render r files windows).value = ⟨.error error, files⟩) ∨
    ∃ settings source, ∃ plain : Host (ConfiguredScreen windows), ∃ frames,
      (settingsFor r files).value = .ok settings ∧ (sourceFor r settings.host files).value = .ok source ∧
      prepare r source = .ok (plain, frames) ∧
      ((∃ error opened, (withScopeFor settings.display plain files).value = (.error error, opened) ∧
          (render r files windows).value = ⟨.error error, opened⟩) ∨
        ∃ host opened, (withScopeFor settings.display plain files).value = (.ok host, opened) ∧
          (render r files windows).value = (renderWith r source host frames opened).value) := by
  rw [value_render]
  rcases settled : (settingsFor r files).value with error | settings
  · exact .inl ⟨error, rfl⟩
  dsimp only
  rcases heard : (sourceFor r settings.host files).value with error | source
  · exact .inl ⟨error, rfl⟩
  dsimp only
  rw [value_renderFrom]
  rcases prepared : prepare r source with error | ⟨plain, frames⟩
  · exact .inl ⟨error, rfl⟩
  refine .inr ⟨settings, source, plain, frames, rfl, heard, prepared, ?_⟩
  dsimp only
  rcases shown : (withScopeFor settings.display plain files).value with ⟨error | host, opened⟩
  · exact .inl ⟨error, opened, rfl, rfl⟩
  · exact .inr ⟨host, opened, rfl, rfl⟩

/-! ## What each stage changes -/

/-- The directory that frames go to under some display settings, if they go to one. -/
def framesUnder (display : DisplaySettings) : Option String :=
  if display.enabled then display.framesDirectory else none

/-- The directory that the frames of a render go to, if they go to one. -/
def framesIn (r : RenderRequest) (files : FileTree) : Option String :=
  (settingsFor r files).value.toOption.bind fun settings => framesUnder settings.display

/-- The scope of a host, if any, draws in some directory, or in none, and on a tree as it is. -/
def Draws (host : Host (ConfiguredScreen windows)) (directory? : Option String) (files : FileTree) : Prop :=
  ∀ scope, host.scope = some scope → scope.screen.directory? = directory? ∧ scope.screen.filesAfter files = files

theorem changes_withScopeFor (display : DisplaySettings) {plain : Host (ConfiguredScreen windows)}
    (alone : plain.scope = none) (files : FileTree) :
    ReflTransGen (FrameChange (framesUnder display)) files (withScopeFor display plain files).value.2 ∧
      ∀ host, (withScopeFor display plain files).value.1 = .ok host →
        Draws host (framesUnder display) (withScopeFor display plain files).value.2 := by
  unfold withScopeFor framesUnder
  by_cases enabled : display.enabled
  · simp only [enabled, if_true]
    obtain ⟨changes, draws⟩ := ConfiguredScreen.changes_create display files
    rw [Logged.value_bind]
    rcases opened : (ConfiguredScreen.create display files windows).value with ⟨error | screen, after⟩
    · rw [opened] at changes
      exact ⟨changes, fun _ refused => nomatch refused⟩
    rw [opened] at changes draws
    dsimp only
    rw [Logged.value_bind]
    rcases attached : (Scope.ofSettings screen display).value with error | scope
    · exact ⟨changes, fun _ refused => nomatch refused⟩
    · refine ⟨changes, ?_⟩
      rintro host ⟨⟩ _ ⟨⟩
      have same : scope.screen = screen := by
        unfold Scope.ofSettings Scope.attach at attached
        split at attached
        · cases attached
          rfl
        · cases attached
      rw [same]
      exact draws screen rfl
  · simp only [enabled]
    refine ⟨.refl, ?_⟩
    rintro host ⟨⟩ scope onScreen
    cases alone.symm.trans onScreen

/-- A run changes the tree of files through its scope only, whether it fails or not. -/
theorem changes_run {host : Host (ConfiguredScreen windows)} {directory? : Option String} {files : FileTree}
    (draws : Draws host directory? files) (effect : BuiltInEffect) (inputs : List (Array Float32)) (frames : ℕ) :
    ReflTransGen (FrameChange directory?) files (filesAfter (host.run effect inputs frames).value.host files) := by
  have scope := (Stage.next_host ⟨host, effect⟩ ⟨id, inputs, frames⟩).2
  change (host.run effect inputs frames).value.host.scope = host.scope.map _ at scope
  unfold filesAfter
  rw [scope]
  cases onScreen : host.scope with
  | none => exact .refl
  | some scope =>
    obtain ⟨same, now⟩ := draws scope onScreen
    have changes := scope.changes_showingAll (host.turns effect inputs frames) files
    rw [same, now] at changes
    exact changes

end BufferScope.Command
