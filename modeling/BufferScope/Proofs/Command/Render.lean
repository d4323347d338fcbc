/-
Rendering from a sound file to another. `render_keeps`: what the output file holds is what a run of the
effect at the rate of the input file makes of its channels.
-/
import BufferScope.Proofs.Command.Stages

namespace BufferScope.Command

variable {windows : WindowSystem}

/-! ## Renders that complete -/

/-- What a render that completes has been through: its settings, its source, a host at the rate of the source,
the number of frames, the scope, a run that went through, and an output file that was written. -/
structure Completed (r : RenderRequest) (files : FileTree) (path : String) (settings : Settings) (source : Source)
    (plain host : Host (ConfiguredScreen windows)) (frames : ℕ) (audio : List (Array Float32)) : Prop where
  settled : (settingsFor r files).value = .ok settings
  heard : (sourceFor r settings.host files).value = .ok source
  created : Host.create source.host = .ok plain
  counted : framesFor r source plain = .ok frames
  shown : ∃ before, (withScopeFor settings.display plain files).value = (.ok host, before)
  ran : (host.run r.effect.build.value source.channels frames).value.result = .ok audio
  saved : ∃ before, (Wave.save before path ⟨source.host.sampleRate, audio⟩).value =
    (.ok (), (render r files windows).value.files)

theorem exists_completed {r : RenderRequest} {files : FileTree} {path text : String} (kept : r.output = some path)
    (completed : (render r files windows).value.result = .ok text) :
    ∃ settings source, ∃ plain host : Host (ConfiguredScreen windows), ∃ frames audio,
      Completed r files path settings source plain host frames audio := by
  -- Stage by stage: one that failed would have ended the render, so each has a value for the next.
  obtain ⟨error, ended⟩ | ⟨settings, source, plain, frames, settled, heard, prepared,
    ⟨error, opened, -, ended⟩ | ⟨host, before, shown, ended⟩⟩ := render_stages r files
  · rw [ended] at completed
    cases completed
  · rw [ended] at completed
    cases completed
  obtain ⟨created, counted⟩ := prepare_eq_ok prepared
  have rate : (host.run r.effect.build.value source.channels frames).value.host.settings.sampleRate =
      source.host.sampleRate := by
    rw [host.settings_run, settings_withScopeFor shown, (create_eq_ok created).1]
  rw [ended, value_renderWith] at completed
  rw [value_renderWith] at ended
  rcases ran : (host.run r.effect.build.value source.channels frames).value with ⟨error | audio, left, effect⟩
  · rw [ran] at completed
    cases completed
  rw [ran] at rate ended completed
  replace rate : left.settings.sampleRate = source.host.sampleRate := rate
  simp only [value_finish kept, rate] at ended completed
  rcases saved : (Wave.save (filesAfter left before) path ⟨source.host.sampleRate, audio⟩).value
    with ⟨error | _, after⟩
  · rw [saved] at completed
    cases completed
  rw [saved] at ended
  exact ⟨settings, source, plain, host, frames, audio, settled, heard, created, counted, ⟨before, shown⟩,
    congrArg Rendered.result ran, ⟨_, saved.trans (by rw [ended])⟩⟩

/-- What a run leaves can be stored if its numbers fit the header of a file. -/
theorem storable_of_run_ok {φ : Type} [Screen φ] {host : Host φ} {effect : BuiltInEffect}
    {inputs : List (Array Float32)} {frames : ℕ} {audio : List (Array Float32)}
    (ran : (host.run effect inputs frames).value.result = .ok audio) (rate : UInt32)
    (frame : 4 * host.settings.outputChannels.toNat < 2 ^ 16)
    (speed : 4 * host.settings.outputChannels.toNat * rate.toNat < 2 ^ 32)
    (size : 60 + 4 * (frames * host.settings.outputChannels.toNat) < 2 ^ 32) :
    Wave.Clip.Storable ⟨rate, audio⟩ frames := by
  obtain ⟨length, even⟩ := Host.sizes_of_run_ok BuiltInEffect.fansOut.keepsLengths ran
  rw [← length] at frame speed size
  exact ⟨List.ne_nil_of_length_pos (length ▸ host.hasOutput), even, frame, speed, size⟩

/-- A render that comes to its run completes if the run goes through, the numbers of its audio fit the header of
a file, and its path can be written after the run. -/
theorem exists_text_of_ran {r : RenderRequest} {files opened : FileTree} {path : String} {settings : Settings}
    {source : Source} {plain host : Host (ConfiguredScreen windows)} {frames : ℕ} {audio : List (Array Float32)}
    (kept : r.output = some path) (settled : (settingsFor r files).value = .ok settings)
    (heard : (sourceFor r settings.host files).value = .ok source) (prepared : prepare r source = .ok (plain, frames))
    (shown : (withScopeFor settings.display plain files).value = (.ok host, opened))
    (ran : (host.run r.effect.build.value source.channels frames).value.result = .ok audio)
    (frame : 4 * host.settings.outputChannels.toNat < 2 ^ 16)
    (speed : 4 * host.settings.outputChannels.toNat * host.settings.sampleRate.toNat < 2 ^ 32)
    (size : 60 + 4 * (frames * host.settings.outputChannels.toNat) < 2 ^ 32)
    (writable : (filesAfter (host.run r.effect.build.value source.channels frames).value.host opened).Writable path) :
    ∃ text, (render r files windows).value.result = .ok text := by
  have storable := storable_of_run_ok ran host.settings.sampleRate frame speed size
  have unchanged := host.settings_run r.effect.build.value source.channels frames
  obtain ⟨after, wrote⟩ := writable.exists_write (.bytes (Wave.clipBytes ⟨host.settings.sampleRate, audio⟩))
  have saved := Wave.value_save_of_writable storable.unwritable?_eq_none wrote
  rw [value_render_of_shown settled heard prepared shown, value_renderWith]
  generalize (host.run r.effect.build.value source.channels frames).value = ended at ran unchanged saved
  obtain ⟨_, left, effect⟩ := ended
  cases ran
  replace unchanged : left.settings = host.settings := unchanged
  simp only [value_finish kept, unchanged, saved]
  exact ⟨_, rfl⟩

/-- A render of an effect from a sound file to another that completes, with any settings and any window system. A
host takes the settings with the rate of the input file in place of theirs, and the scope that the display settings
ask for, be it on pictures, on a window or in memory. Its run over the channels of the input file goes through,
for the frames of the longest channel or for those that the host counts for the time asked for, and returns what
a host without the scope does: the output channels of the settings, all with those frames and all the same. If
the numbers fit the header of a file, the output file is read as these channels at the rate of the input file. -/
theorem render_keeps {r : RenderRequest} {files : FileTree} {input path text : String} {clip : Wave.Clip}
    (given : r.input = some input) (kept : r.output = some path) (decoded : (Wave.load files input).value = .ok clip)
    (completed : (render r files windows).value.result = .ok text) :
    ∃ (settings : Settings) (plain host : Host (ConfiguredScreen windows)) (frames : ℕ)
      (audio : List (Array Float32)),
      (settingsFor r files).value = .ok settings ∧
      Host.create { settings.host with sampleRate := clip.sampleRate } = .ok plain ∧
      (∃ before, (withScopeFor settings.display plain files).value = (.ok host, before)) ∧
      (r.seconds = none → frames = Wave.longest clip.channels) ∧
      (∀ seconds, r.seconds = some seconds → plain.framesForSeconds seconds = .ok frames) ∧
      (host.run r.effect.build.value clip.channels frames).value.result = .ok audio ∧
      (plain.run r.effect.build.value clip.channels frames).value.result = .ok audio ∧
      audio.length = settings.host.outputChannels.toNat ∧
      (∀ channel ∈ audio, channel.size = frames) ∧
      (∀ channel ∈ audio, ∀ other ∈ audio, channel = other) ∧
      (4 * settings.host.outputChannels.toNat < 2 ^ 16 →
        4 * settings.host.outputChannels.toNat * clip.sampleRate.toNat < 2 ^ 32 →
        60 + 4 * (frames * settings.host.outputChannels.toNat) < 2 ^ 32 →
        (Wave.load (render r files windows).value.files path).value = .ok ⟨clip.sampleRate, audio⟩) := by
  obtain ⟨settings, source, plain, host, frames, audio, settled, heard, created, counted, ⟨before, shown⟩, ran,
    ⟨written, saved⟩⟩ := exists_completed kept completed
  cases (value_sourceFor given decoded settings.host).symm.trans heard
  obtain ⟨untimed, timed⟩ := framesFor_eq_ok counted (Wave.channels_ne_nil_of_load decoded)
  obtain ⟨same, alone⟩ := create_eq_ok created
  have unchanged := settings_withScopeFor shown
  obtain ⟨length, sizes⟩ := Host.sizes_of_run_ok BuiltInEffect.fansOut.keepsLengths ran
  have channels : host.settings.outputChannels = settings.host.outputChannels := by rw [unchanged, same]
  rw [channels] at length
  refine ⟨settings, plain, host, frames, audio, settled, created, ⟨before, shown⟩, untimed, timed, ran,
    Host.run_plain_of_ok alone unchanged.symm ran, length, sizes, Host.alike_of_run_ok BuiltInEffect.fansOut ran, ?_⟩
  intro frame speed size
  rw [← channels] at frame speed size
  exact Wave.load_of_saved (storable_of_run_ok ran clip.sampleRate frame speed size) saved

/-- Two channels of three samples, at a rate that is not the default. -/
def recording : Wave.Clip := ⟨8000, [#[0.5, -1, 0.25], #[0, 1, 2]]⟩

def recordings : FileTree := { root := [("in.wav", .file (.bytes (Wave.clipBytes recording)))] }

def request : RenderRequest := { effect := .spectral, input := some "in.wav", output := some "out.wav" }

theorem read_recordings : recordings.read "in.wav" = .ok (.bytes (Wave.clipBytes recording)) := by
  have located : recordings.locate .reading (FilePath.ofText "in.wav") =
      .ok ⟨⟨recordings.root, []⟩, some "in.wav", false⟩ := (FileTree.locate_eq_destination (by cbv)).trans rfl
  exact FileTree.read_eq_ok_iff.mpr ⟨_, "in.wav", located, rfl, rfl, by decide, rfl⟩

theorem load_recordings : (Wave.load recordings "in.wav").value = .ok recording := by
  have bytes : Wave.fileBytes recordings "in.wav" = .ok (Wave.clipBytes recording) := by
    unfold Wave.fileBytes
    rw [read_recordings]
    rfl
  have storable : recording.Storable 3 :=
    ⟨by simp [recording], by simp [recording], by decide, by decide, by decide⟩
  rw [Wave.value_load, bytes, Except.bind, storable.readClip_clipBytes]

/-- A window that its user closes after some frames. -/
structure ShortWindow where
  title : String
  left : ℕ

instance : Screen ShortWindow where
  title := ShortWindow.title
  blit window _ := match window.left with
    | 0 => return (.error (.render (.window "scope window was closed")), window)
    | left + 1 => return (.ok (), { window with left })

/-- Windows can be opened, and their user closes them after some frames. -/
def closingAfter (frames : ℕ) : WindowSystem where
  Window := ShortWindow
  openWindow title width height := do
    log .info "pysynth_infra::display::window" "Opened scope window"
      [⟨"title", .plain title⟩, ⟨"width", .count width.toNat⟩, ⟨"height", .count height.toNat⟩]
    return .ok ⟨title, frames⟩

/-- A host at the rate of the recording, with the default settings otherwise. -/
def recordingHost (windows : WindowSystem) : Host (ConfiguredScreen windows) where
  settings := ⟨8000, 512, 2⟩
  hasRate := by decide
  hasFrames := by decide
  hasOutput := by decide

/-- A scope of the default size. -/
def scopeOn {windows : WindowSystem} (screen : ConfiguredScreen windows) : Scope (ConfiguredScreen windows) :=
  ⟨screen, 640, 480, 0, by decide⟩

/-- The host with a scope on a window, which takes some frames. -/
def windowHost (frames : ℕ) : Host (ConfiguredScreen (closingAfter frames)) :=
  (recordingHost _).withScope (scopeOn (.window (ShortWindow.mk "Testing" frames)))

theorem prepare_request (windows : WindowSystem) :
    prepare request ⟨recording.channels, ⟨8000, 512, 2⟩⟩ = .ok (recordingHost windows, 3) := rfl

theorem requests_recording : (⟨8000, 512, 2⟩ : HostSettings).requests recording.channels 3 =
    [((⟨8000, 512, 2⟩ : HostSettings).request recording.channels 3 0 : Request Float32 Float)] := rfl

/-- The one buffer of the recording goes through. -/
theorem processed_recording : ∀ c ∈ BufferEffect.calls (EffectKind.build .spectral).value
    ((⟨8000, 512, 2⟩ : HostSettings).requests recording.channels 3), c.answer.result = .ok () := by
  have accepted : Audio.acceptedInput Float ((⟨8000, 512, 2⟩ : HostSettings).request recording.channels 3 0 :
      Request Float32 Float).inputs = .ok (sliceOf Float #[0.5, -1, 0.25] 0 3) :=
    Audio.acceptedInput_of_finite _ (by decide) (by decide +kernel)
  rw [requests_recording]
  intro c made
  cases List.mem_singleton.mp made
  obtain ⟨_, refused, -⟩ | ⟨_, -, ended⟩ := SpectralRoundTrip.call_cases
    (SpectralRoundTrip.new : Logged (SpectralRoundTrip Float)).value
    ((⟨8000, 512, 2⟩ : HostSettings).request recording.channels 3 0)
  · cases accepted.symm.trans refused
  · exact congrArg Processed.result ended

/-- A window that takes a frame takes that of the recording. -/
theorem taken_recording : ∀ t ∈ (windowHost 1).turns (EffectKind.build .spectral).value recording.channels 3,
    ∀ b, t.blit = some b → b.answer = .ok () := by
  intro t member b blit
  unfold Host.turns at member
  rw [show (windowHost 1).settings = ⟨8000, 512, 2⟩ from rfl, requests_recording, Pass.turns_singleton] at member
  cases List.mem_singleton.mp member
  unfold Pass.observed at blit
  split at blit
  · obtain ⟨frame, -, rfl⟩ := Option.map_eq_some_iff.mp blit
    rfl
  · cases blit

/-- A window leaves the files alone. -/
theorem filesAfter_window (frames : ℕ) : filesAfter
    ((windowHost frames).run (EffectKind.build .spectral).value recording.channels 3).value.host recordings =
      recordings := by
  have draws : Draws (windowHost frames) none recordings := by
    rintro scope ⟨⟩
    exact ⟨rfl, rfl⟩
  exact FileTree.eq_of_changes_none (changes_run draws _ _ _)

theorem completed_request : ∃ text, (render request recordings (closingAfter 1)).value.result = .ok text := by
  have heard : (sourceFor request {} recordings).value = .ok ⟨recording.channels, ⟨8000, 512, 2⟩⟩ :=
    value_sourceFor rfl load_recordings {}
  obtain ⟨ran, -⟩ := (windowHost 1).run_of_processed _ _ _ processed_recording taken_recording
  have shown : (withScopeFor {} (recordingHost (closingAfter 1)) recordings).value =
      (.ok (windowHost 1), recordings) := rfl
  refine exists_text_of_ran rfl rfl heard (prepare_request _) shown ran (by decide) (by decide) (by decide) ?_
  have located : recordings.locate .writing (FilePath.ofText "out.wav") =
      .ok ⟨⟨recordings.root, []⟩, some "out.wav", false⟩ := (FileTree.locate_eq_destination (by cbv)).trans rfl
  have free : ∀ inner, recordings.root.get? "out.wav" ≠ some (.directory inner) := fun inner held => by cases held
  have unlinked : ∀ target, recordings.root.get? "out.wav" ≠ some (.link target) := fun target held => by cases held
  have writable : recordings.Writable "out.wav" :=
    FileTree.Target.writable ⟨located, rfl, rfl, by decide, free, unlinked⟩
  rwa [← filesAfter_window 1] at writable

/-- The spectral round trip of the recording, shown in a window that is closed after its only frame. The output
file has the rate of the recording and not the default, and its three samples in both channels. -/
theorem render_keeps_recording :
    request.input = some "in.wav" ∧ request.output = some "out.wav" ∧
    (Wave.load recordings "in.wav").value = .ok recording ∧
    (∃ text, (render request recordings (closingAfter 1)).value.result = .ok text) ∧
    ∃ channel : Array Float32, channel.size = 3 ∧
      (Wave.load (render request recordings (closingAfter 1)).value.files "out.wav").value =
        .ok ⟨8000, [channel, channel]⟩ := by
  obtain ⟨text, completed⟩ := completed_request
  obtain ⟨settings, plain, host, frames, audio, settled, created, -, untimed, -, -, -, length, sizes, alike,
    loaded⟩ := render_keeps rfl rfl load_recordings completed
  refine ⟨rfl, rfl, load_recordings, ⟨text, completed⟩, ?_⟩
  have defaults : (settingsFor request recordings).value = .ok {} := rfl
  cases defaults.symm.trans settled
  obtain ⟨first, second, rfl⟩ := List.length_eq_two.mp length
  cases alike first (by simp) second (by simp)
  cases untimed rfl
  exact ⟨first, sizes first (by simp), loaded (by decide) (by decide) (by decide)⟩

end BufferScope.Command
