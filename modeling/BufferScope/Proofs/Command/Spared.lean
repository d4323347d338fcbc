/-
What a render changes in the tree of files. `render_spares`: before the output file is written, and so
also if the render fails, there are changes for frames only, and the output file is written once, after
the last buffer.
-/
import BufferScope.Proofs.Command.Render
import BufferScope.Proofs.Host.Tone
import BufferScope.Proofs.Plot.Paint
import BufferScope.Proofs.Screen.Frames

namespace BufferScope.Command

open Relation (ReflTransGen)

variable {windows : WindowSystem}

/-! ## How a render ends -/

/-- A render whose run goes through: its settings, its source, a host, the number of frames, the scope with
the tree after it was opened, the audio, and the tree that the run leaves. -/
structure RunsThrough (r : RenderRequest) (files : FileTree) (settings : Settings) (source : Source)
    (plain host : Host (ConfiguredScreen windows)) (frames : ℕ) (opened : FileTree) (audio : List (Array Float32))
    (left : FileTree) : Prop where
  settled : (settingsFor r files).value = .ok settings
  heard : (sourceFor r settings.host files).value = .ok source
  prepared : prepare r source = .ok (plain, frames)
  shown : (withScopeFor settings.display plain files).value = (.ok host, opened)
  ran : (host.run r.effect.build.value source.channels frames).value.result = .ok audio
  leaves : filesAfter (host.run r.effect.build.value source.channels frames).value.host opened = left

/-- A render fails with nothing but changes for frames, or its run goes through with nothing but these,
and it keeps or reports the audio. -/
theorem render_cases (r : RenderRequest) (files : FileTree) :
    ∃ left, ReflTransGen (FrameChange (framesIn r files)) files left ∧
      ((∃ error, (render r files windows).value = ⟨.error error, left⟩) ∨
        ∃ settings source, ∃ plain host : Host (ConfiguredScreen windows), ∃ frames opened audio,
          RunsThrough r files settings source plain host frames opened audio left ∧
          (render r files windows).value =
            (finish r (host.run r.effect.build.value source.channels frames).value.host frames audio left).value) := by
  obtain ⟨error, ended⟩ | ⟨settings, source, plain, frames, settled, heard, prepared, shown⟩ :=
    render_stages r files
  · exact ⟨files, .refl, .inl ⟨error, ended⟩⟩
  have inForce : framesIn r files = framesUnder settings.display := by
    unfold framesIn
    rw [settled]
    rfl
  obtain ⟨-, alone⟩ := create_eq_ok (prepare_eq_ok prepared).1
  obtain ⟨changes, draws⟩ := changes_withScopeFor settings.display alone files
  rw [inForce]
  obtain ⟨error, opened, shown, ended⟩ | ⟨host, opened, shown, ended⟩ := shown
  · rw [shown] at changes
    exact ⟨opened, changes, .inl ⟨error, ended⟩⟩
  rw [shown] at changes draws
  rw [value_renderWith] at ended
  refine ⟨_, changes.trans (changes_run (draws host rfl) r.effect.build.value source.channels frames), ?_⟩
  rcases ran : (host.run r.effect.build.value source.channels frames).value with ⟨error | audio, after, effect⟩
  · rw [ran] at ended
    exact .inl ⟨_, ended⟩
  · rw [ran] at ended
    refine .inr ⟨settings, source, plain, host, frames, opened, audio, ?_, by rw [ended, ran]⟩
    exact ⟨settled, heard, prepared, shown, congrArg Rendered.result ran, by rw [ran]⟩

/-- Audio that is kept is written once, and nothing else changes. -/
theorem finish_cases {φ : Type} (r : RenderRequest) (host : Host φ) (frames : ℕ) (audio : List (Array Float32))
    (files : FileTree) :
    (∃ error, (finish r host frames audio files).value = ⟨.error error, files⟩) ∨
    (∃ text, (finish r host frames audio files).value = ⟨.ok text, files⟩ ∧ r.output = none) ∨
    ∃ text path after, (finish r host frames audio files).value = ⟨.ok text, after⟩ ∧ r.output = some path ∧
      files.write path (.bytes (Wave.clipBytes ⟨host.settings.sampleRate, audio⟩)) = .ok after := by
  rcases kept : r.output with _ | path
  · right
    left
    unfold finish
    rw [kept]
    exact ⟨_, rfl, rfl⟩
  rw [value_finish kept]
  obtain ⟨error, refused⟩ | ⟨after, saved, wrote⟩ :=
    Wave.save_cases files path ⟨host.settings.sampleRate, audio⟩
  · rw [refused]
    exact .inl ⟨_, rfl⟩
  · rw [saved]
    exact .inr (.inr ⟨_, path, after, rfl, rfl, wrote⟩)

/-- A run that goes through has processed and presented every buffer. -/
theorem RunsThrough.completed {r : RenderRequest} {files left opened : FileTree} {settings : Settings} {source : Source}
    {plain host : Host (ConfiguredScreen windows)} {frames : ℕ} {audio : List (Array Float32)}
    (through : RunsThrough r files settings source plain host frames opened audio left) :
    (host.turns r.effect.build.value source.channels frames).length = frames ⌈/⌉ host.settings.bufferSize.toNat ∧
      ∀ t ∈ host.turns r.effect.build.value source.channels frames, t.result = .ok () := by
  obtain ⟨_, -, length, completed⟩ | ⟨error, _, _, failed, -⟩ :=
    (host.account r.effect.build.value source.channels frames).ends
  · exact ⟨length, completed⟩
  · cases through.ran.symm.trans failed

/-- Any render, on any tree of files and with any window system. There is a tree `left` that it comes to by
changes for frames alone: a directory is made on the way to theirs, or a file is written under the name of one.
So every place is as it was, or is that of a frame, or is that of a directory on the way to the frames which was
missing; a file with several names is as it was, or a frame is one of them; and what a path was read as, the
output path and the input path among them, it is read as there, if the file is not that of a frame. If the render
fails, with whatever error, `left` is what it leaves. If it succeeds and there is no output path, `left` is what
it leaves, too. If it succeeds and there is one, its run went through all the buffers to `left`, and what it
leaves is `left` after one write, of the audio to the output path. -/
theorem render_spares (r : RenderRequest) (files : FileTree) :
    ∃ left, ReflTransGen (FrameChange (framesIn r files)) files left ∧
      (∀ place, left.get? place = files.get? place ∨
        (left.IsFrame (framesIn r files) place ∧ files.IsReplaceable place ∧
          ∃ content, left.get? place = some (.file content)) ∨
        (left.IsOnTheWay (framesIn r files) place ∧ files.get? place = none ∧
          left.get? place = some .directory)) ∧
      (∀ number, left.shared number = files.shared number ∨
        ∃ place, left.IsFrame (framesIn r files) place ∧ left.get? place = some (.shared number)) ∧
      (∀ path content, ¬left.LeadsToFrame (framesIn r files) path → files.read path = .ok content →
        left.read path = .ok content) ∧
      (∀ error, (render r files windows).value.result = .error error →
        (render r files windows).value.files = left) ∧
      ∀ text, (render r files windows).value.result = .ok text →
        ∃ settings source, ∃ plain host : Host (ConfiguredScreen windows), ∃ frames opened audio,
          RunsThrough r files settings source plain host frames opened audio left ∧
          (host.turns r.effect.build.value source.channels frames).length =
            frames ⌈/⌉ host.settings.bufferSize.toNat ∧
          (∀ t ∈ host.turns r.effect.build.value source.channels frames, t.result = .ok ()) ∧
          (r.output = none → (render r files windows).value.files = left) ∧
          ∀ path, r.output = some path →
            left.write path (.bytes (Wave.clipBytes ⟨source.host.sampleRate, audio⟩)) =
              .ok (render r files windows).value.files := by
  obtain ⟨left, changes, ends⟩ := render_cases r files
  have spares := FileTree.spares_of_changes changes
  refine ⟨left, changes, fun place => (spares.spared place).cases, spares.shared,
    fun path content other => spares.read_eq other, ?_⟩
  obtain ⟨error, ended⟩ | ⟨settings, source, plain, host, frames, opened, audio, through, ended⟩ := ends
  · rw [ended]
    exact ⟨fun _ _ => rfl, fun _ completed => nomatch completed⟩
  obtain ⟨length, completed⟩ := through.completed
  rw [ended]
  obtain ⟨error, refused⟩ | ⟨text, reported, unkept⟩ | ⟨text, path, after, saved, kept, wrote⟩ :=
    finish_cases r (host.run r.effect.build.value source.channels frames).value.host frames audio left
  · rw [refused]
    exact ⟨fun _ _ => rfl, fun _ succeeded => nomatch succeeded⟩
  · rw [reported]
    refine ⟨fun _ _ => rfl, fun _ _ => ⟨settings, source, plain, host, frames, opened, audio,
      through, length, completed, fun _ => rfl, ?_⟩⟩
    intro path kept
    cases unkept.symm.trans kept
  · rw [saved]
    refine ⟨fun _ refused => (nomatch refused), fun _ _ => ⟨settings, source, plain, host, frames, opened, audio,
      through, length, completed, ?_, ?_⟩⟩
    · intro unkept
      cases unkept.symm.trans kept
    · intro other kept'
      cases kept.symm.trans kept'
      rw [host.settings_run, settings_withScopeFor through.shown,
        (create_eq_ok (prepare_eq_ok through.prepared).1).1] at wrote
      exact wrote

/-- The frames are to go below the input file, on a way through a directory that is not there. -/
def misplaced : RenderRequest :=
  { effect := .spectral, input := some "in.wav", output := some "in.wav",
    framesDirectory := some "new/../in.wav/frames" }

/-- The recordings with the directory that a misplaced render makes before it fails. -/
def withNew : FileTree := { root := recordings.root ++ [("new", .directory [])] }

theorem value_render_misplaced :
    (render misplaced recordings).value = ⟨.error (.noScreen (.file .exists)), withNew⟩ := by
  have settled : (settingsFor misplaced recordings).value =
    .ok { display := { framesDirectory := some "new/../in.wav/frames" } } := rfl
  have prepared : prepare misplaced ⟨recording.channels, ⟨8000, 512, 2⟩⟩ = .ok (recordingHost .absent, 3) := rfl
  have heard : (sourceFor misplaced {} recordings).value = .ok ⟨recording.channels, ⟨8000, 512, 2⟩⟩ :=
    value_sourceFor rfl load_recordings {}
  have above : (FilePath.ofText "new/../in.wav/frames").ancestors =
      [⟨["new", "..", "in.wav", "frames"]⟩, ⟨["new", "..", "in.wav"]⟩, ⟨["new", ".."]⟩, ⟨["new"]⟩,
        ⟨[""]⟩] := by decide +kernel
  have sound : (FilePath.ofText "new/../in.wav/frames").fault? = none := by cbv
  have filled : (FilePath.ofText "new/../in.wav/frames").isEmpty = false := by decide +kernel
  have made : recordings.makeDirectories "new/../in.wav/frames" = (.error .exists, withNew) := by
    unfold FileTree.makeDirectories FileTree.makeAll
    simp only [filled, sound, above, Bool.false_eq_true, if_false]
    rfl
  have shown :
      (withScopeFor { framesDirectory := some "new/../in.wav/frames" } (recordingHost .absent) recordings).value =
      (.error (.noScreen (.file .exists)), withNew) := by
    unfold withScopeFor ConfiguredScreen.create PngSequence.create
    simp only [made]
    rfl
  simp only [value_render, settled, heard, value_renderFrom, prepared, shown]

/-- Of two renders, one finds a file on the way to its frames when it has made a directory, and the recording can
still be read from the path that was to be written; the other shows its frame in a window that is closed after it, and
writes its output file to the tree as it was. -/
theorem render_spares_recording :
    (∃ error, (render misplaced recordings).value.result = .error error) ∧
    (render misplaced recordings).value.files.read "in.wav" = .ok (.bytes (Wave.clipBytes recording)) ∧
    ∃ audio : List (Array Float32), recordings.write "out.wav" (.bytes (Wave.clipBytes ⟨8000, audio⟩)) =
      .ok (render request recordings (closingAfter 1)).value.files := by
  constructor
  · rw [value_render_misplaced]
    exact ⟨_, rfl⟩
  constructor
  · obtain ⟨left, -, -, -, read, failed, -⟩ := render_spares misplaced recordings
    have leaves := failed (.noScreen (.file .exists)) (by rw [value_render_misplaced])
    have inForce : framesIn misplaced recordings = some "new/../in.wav/frames" := rfl
    have nowhere : left.destination .reading (FilePath.ofText "new/../in.wav/frames") = .error .notDirectory := by
      rw [← leaves, value_render_misplaced]
      rfl
    rw [inForce] at read
    rw [leaves]
    refine read "in.wav" _ ?_ read_recordings
    rintro ⟨_, _, -, ⟨leads⟩ | ⟨leads, -, -⟩, -⟩
    · cases nowhere.symm.trans leads
    · cases nowhere.symm.trans leads
  · obtain ⟨text, completed⟩ := completed_request
    obtain ⟨left, changes, -, -, -, -, succeeded⟩ := render_spares request recordings
    obtain ⟨settings, source, plain, host, frames, opened, audio, through, -, -, -, wrote⟩ :=
      succeeded text completed
    have nowhere : framesIn request recordings = none := rfl
    rw [nowhere] at changes
    cases FileTree.eq_of_changes_none changes
    have defaults : (settingsFor request recordings).value = .ok {} := rfl
    cases defaults.symm.trans through.settled
    cases (value_sourceFor rfl load_recordings _).symm.trans through.heard
    exact ⟨audio, wrote "out.wav" rfl⟩

/-! ## Frames that go elsewhere -/

/-- A run of the tone that is shown in a sequence of pictures. -/
def Playing (p : Pass (ConfiguredScreen windows) BuiltInEffect Float32) (s : PngSequence) : Prop :=
  ∃ e scope, p.effect = .tone e ∧ p.host.scope = some scope ∧ scope.screen = .pictures s

theorem Playing.filesAfter_eq {p : Pass (ConfiguredScreen windows) BuiltInEffect Float32} {s : PngSequence}
    (playing : Playing p s) (files : FileTree) : filesAfter p.host files = s.files := by
  obtain ⟨e, scope, -, onScreen, pictures⟩ := playing
  unfold filesAfter
  rw [onScreen]
  dsimp only
  rw [pictures]
  rfl

/-- A turn on a buffer that begins before the end hands over a frame with pixels, and ends as its blit does. -/
theorem Playing.turn {p : Pass (ConfiguredScreen windows) BuiltInEffect Float32} {s : PngSequence}
    (playing : Playing p s) (host : Host (ConfiguredScreen windows)) (inputs : List (Array Float32)) {frames j : ℕ}
    (more : j * host.settings.bufferSize.toNat < frames) :
    ∃ frame : Canvas, (0 < frame.width ∧ 0 < frame.height) ∧ ∀ answer after,
      (s.blit frame).value = (answer, after) →
      (p.observed (host.settings.request inputs frames j)).result = answer ∧
        Playing (p.turn (host.settings.request inputs frames j)).2 after := by
  obtain ⟨e, scope, isTone, onScreen, pictures⟩ := playing
  have answered := Tone.call_request host.hasRate host.hasOutput inputs frames e j
  obtain ⟨plot, plotted⟩ := Tone.exists_plot_request host.hasRate host.hasOutput inputs frames host.hasFrames e more
  generalize (host.settings.request inputs frames j : Request Float32 Float) = r at answered plotted ⊢
  have wrapped : (BufferEffect.call p.effect r).answer =
      ⟨(BufferEffect.call e r).answer.result, .tone (BufferEffect.call e r).answer.effect,
        (BufferEffect.call e r).answer.outputs⟩ := by
    rw [isTone]
    rfl
  have processed : (BufferEffect.call p.effect r).answer.result = .ok () := by
    rw [wrapped, answered]
    rfl
  have drawn : BufferEffect.plot (BufferEffect.call p.effect r).answer.effect = some plot := by
    rw [wrapped]
    exact plotted
  obtain ⟨frame, rendered, result, shown⟩ := Pass.observed_of_plotted onScreen processed drawn
  obtain ⟨wide, high⟩ := plot.size_of_render rendered
  refine ⟨frame, wide ▸ high ▸ scope.nonempty, fun answer after ended => ?_⟩
  have blit : (Screen.blit scope.screen frame).value = (answer, .pictures after) := by
    rw [pictures]
    exact congrArg (fun ended => (ended.1, ConfiguredScreen.pictures ended.2)) ended
  rw [blit] at result
  refine ⟨result, (BufferEffect.call e r).answer.effect, _, ?_, shown, congrArg Prod.snd blit⟩
  rw [Pass.effect_turn, wrapped]

/-- A tone is rendered over an older file, with its frames beside it. -/
def toned : RenderRequest := { effect := .tone, output := some "out.wav", framesDirectory := some "frames" }

/-- The name of the first frame is that of a link to the output file, and the second that of a directory. -/
def linkedFrames (content : FileContent) : FileTree where
  root := [("out.wav", .file content),
    ("frames", .directory [("frame_000000.png", .link "../out.wav"), ("frame_000001.png", .directory [])])]

theorem write_linkedFrames (old new : FileContent) :
    (linkedFrames old).write "frames/frame_000000.png" new = .ok (linkedFrames new) := by
  have sound : (FilePath.ofText "frames/frame_000000.png").fault? = none := by cbv
  have sound' : (FilePath.ofText "../out.wav").fault? = none := by cbv
  have leads : (linkedFrames old).destination .writing (FilePath.ofText "frames/frame_000000.png") =
      .ok ⟨⟨(linkedFrames old).root, []⟩, some "out.wav", false⟩ :=
    FileTree.destination_eq_ok_iff.mpr ⟨_, rfl, .linked rfl sound' (.ended rfl)⟩
  have target : (linkedFrames old).Target "frames/frame_000000.png"
      ⟨⟨(linkedFrames old).root, []⟩, some "out.wav", false⟩ "out.wav" :=
    ⟨(FileTree.locate_eq_destination sound).trans leads, rfl, rfl, by decide, by rintro _ ⟨⟩,
      by rintro _ ⟨⟩⟩
  obtain ⟨number, shared, -⟩ | ⟨-, wrote⟩ := target.write_cases new
  · cases shared
  · exact wrote

theorem read_linkedFrames (content : FileContent) : (linkedFrames content).read "out.wav" = .ok content := by
  have located : (linkedFrames content).locate .reading (FilePath.ofText "out.wav") =
      .ok ⟨⟨(linkedFrames content).root, []⟩, some "out.wav", false⟩ :=
    (FileTree.locate_eq_destination (by cbv)).trans rfl
  exact FileTree.read_eq_ok_iff.mpr ⟨_, "out.wav", located, rfl, rfl, by decide, rfl⟩

theorem unwritable_linkedFrames (content : FileContent) :
    ¬(linkedFrames content).Writable "frames/frame_000001.png" := by
  rintro ⟨_, _, wrote⟩
  obtain ⟨d, name, target⟩ := FileTree.exists_target wrote
  have leads : (linkedFrames content).destination .writing (FilePath.ofText "frames/frame_000001.png") =
      .ok ⟨⟨[("frame_000000.png", .link "../out.wav"), ("frame_000001.png", .directory [])],
        [("frames", (linkedFrames content).root)]⟩, some "frame_000001.png", false⟩ := rfl
  cases leads.symm.trans target.leads
  cases target.named
  exact target.free [] rfl

/-- A sequence of pictures that is written there. -/
def linkedSequence (content : FileContent) (nextFrame : ℕ) : PngSequence :=
  { title := "Testing", directory := "frames", nextFrame, files := linkedFrames content }

theorem value_blit_linked (content : FileContent) {frame : Canvas} (sized : 0 < frame.width ∧ 0 < frame.height) :
    ((linkedSequence content 0).blit frame).value = (.ok (), linkedSequence (.picture frame) 1) ∧
      ∃ error, ((linkedSequence content 1).blit frame).value = (.error error, linkedSequence content 1) := by
  have first : (linkedSequence content 0).framePath 0 = "frames/frame_000000.png" := by
    show FilePath.join "frames" _ = _
    decide +kernel
  have second : (linkedSequence content 1).framePath 1 = "frames/frame_000001.png" := by
    show FilePath.join "frames" _ = _
    decide +kernel
  constructor
  · exact PngSequence.value_blit_of_write sized (first ▸ write_linkedFrames content (.picture frame))
  · exact PngSequence.value_blit_of_unwritable (second ▸ unwritable_linkedFrames content) frame

/-- A host with a scope on these pictures, and the default settings. -/
def linkedHost : Host (ConfiguredScreen .absent) where
  settings := {}
  scope := some (scopeOn (.pictures (linkedSequence (.bytes [1, 2, 3]) 0)))
  hasRate := by decide
  hasFrames := by decide
  hasOutput := by decide

theorem requests_linkedHost : ∃ rest, (linkedHost.settings.requests [] 44100 : List (Request Float32 Float)) =
    linkedHost.settings.request [] 44100 0 :: linkedHost.settings.request [] 44100 1 :: rest := by
  have count : 44100 ⌈/⌉ linkedHost.settings.bufferSize.toNat = 87 := by decide
  unfold HostSettings.requests
  rw [count, List.range_eq_range', List.range'_succ, List.range'_succ, List.map_cons, List.map_cons]
  exact ⟨_, rfl⟩

/-- The first frame of the run is written over the output file, and the second has no file to go to. -/
theorem run_linkedHost : ∃ error frame,
    (linkedHost.run toned.effect.build.value [] 44100).value.result = .error error ∧
    filesAfter (linkedHost.run toned.effect.build.value [] 44100).value.host
      (linkedFrames (.bytes [1, 2, 3])) = linkedFrames (.picture frame) := by
  have start : Playing (linkedHost.start toned.effect.build.value) (linkedSequence (.bytes [1, 2, 3]) 0) :=
    ⟨_, _, rfl, rfl, rfl⟩
  obtain ⟨frame, sized, first⟩ := start.turn linkedHost [] (show 0 * 512 < 44100 by decide)
  obtain ⟨completed, playing⟩ := first _ _ (value_blit_linked _ sized).1
  obtain ⟨frame', sized', second⟩ := playing.turn linkedHost [] (show 1 * 512 < 44100 by decide)
  obtain ⟨error, unwritable⟩ := (value_blit_linked (.picture frame) sized').2
  obtain ⟨failed, left⟩ := second _ _ unwritable
  obtain ⟨rest, requests⟩ := requests_linkedHost
  -- the second buffer ends the run, so the others do not matter
  obtain ⟨last, driven, left⟩ : ∃ last, (linkedHost.start toned.effect.build.value).drive
      (linkedHost.settings.requests [] 44100) = (.error error, last) ∧
        Playing last (linkedSequence (.picture frame) 1) := by
    rw [requests, (Pass.drive_cons_of_ok _ _ _ completed).1, (Pass.drive_cons_of_error _ _ _ failed).1]
    exact ⟨_, rfl, left⟩
  refine ⟨error, frame, ?_⟩
  rw [Host.value_run, driven]
  exact ⟨rfl, left.filesAfter_eq _⟩

theorem value_render_toned : ∃ error frame, (render toned (linkedFrames (.bytes [1, 2, 3]))).value =
    ⟨.error error, linkedFrames (.picture frame)⟩ := by
  obtain ⟨error, frame, failed, left⟩ := run_linkedHost
  have settled : (settingsFor toned (linkedFrames (.bytes [1, 2, 3]))).value =
    .ok { display := { framesDirectory := some "frames" } } := rfl
  have heard : (sourceFor toned {} (linkedFrames (.bytes [1, 2, 3]))).value = .ok ⟨[], {}⟩ := rfl
  have prepared : prepare toned ⟨[], {}⟩ = .ok (linkedHost.unscoped, 44100) := rfl
  have made : (linkedFrames (.bytes [1, 2, 3])).makeDirectories "frames" =
      (.ok (), linkedFrames (.bytes [1, 2, 3])) := by cbv
  have shown : (withScopeFor { framesDirectory := some "frames" } linkedHost.unscoped
      (linkedFrames (.bytes [1, 2, 3]))).value = (.ok linkedHost, linkedFrames (.bytes [1, 2, 3])) := by
    unfold withScopeFor ConfiguredScreen.create PngSequence.create
    simp only [made]
    rfl
  refine ⟨.failed error, frame, ?_⟩
  rw [value_render_of_shown settled heard prepared shown, value_renderWith_of_error failed, left]

/-- A render that fails may leave more than its frames in their directory. It may leave a directory that was not there
and is neither that of the frames, which cannot be reached, nor the place of a frame; and if the name of a frame is
that of a link, what the link leads to is written, be it the output file. -/
theorem render_changes_elsewhere :
    ((∃ error, (render misplaced recordings).value.result = .error error) ∧
      framesIn misplaced recordings = some "new/../in.wav/frames" ∧
      recordings.get? ["new"] = none ∧
      (render misplaced recordings).value.files.get? ["new"] = some .directory ∧
      (render misplaced recordings).value.files.destination .reading (FilePath.ofText "new/../in.wav/frames") =
        .error .notDirectory) ∧
    (∃ error, (render toned (linkedFrames (.bytes [1, 2, 3]))).value.result = .error error) ∧
    toned.output = some "out.wav" ∧
    (linkedFrames (.bytes [1, 2, 3])).read "out.wav" = .ok (.bytes [1, 2, 3]) ∧
    ∃ frame, (render toned (linkedFrames (.bytes [1, 2, 3]))).value.files.read "out.wav" = .ok (.picture frame) := by
  constructor
  · rw [value_render_misplaced]
    exact ⟨⟨_, rfl⟩, rfl, rfl, rfl, rfl⟩
  · obtain ⟨error, frame, ended⟩ := value_render_toned
    rw [ended]
    exact ⟨⟨_, rfl⟩, rfl, read_linkedFrames _, frame, read_linkedFrames _⟩

end BufferScope.Command
