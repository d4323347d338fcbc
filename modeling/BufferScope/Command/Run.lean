/-
The commands: listing the effects, and rendering one offline, from the settings and the input file
to the frames of the scope and the output file.
-/
import BufferScope.Command.Arguments
import BufferScope.Command.Error
import BufferScope.Host
import BufferScope.Screen.Configured
import BufferScope.Settings.File
import BufferScope.Wave.File

namespace BufferScope.Command

/-- Where the events of commands come from. -/
def commandTarget : String := "pysynth"

/-- A text followed by spaces up to a width. -/
def padded (text : String) (width : Nat) : String := text ++ "".pushn ' ' (width - text.length)

/-- A line for each effect. -/
def effectsListing : String :=
  linesText (EffectKind.all.map fun kind => padded kind.name 10 ++ " " ++ kind.description)

/-! ## Rendering -/

variable {windows : WindowSystem}

/-- The settings in the file that a render names, or the defaults. -/
def loadedFor (r : RenderRequest) (files : FileTree) : Logged (Except CommandError Settings) :=
  match r.config with
  | none => return .ok {}
  | some path => return (← Settings.load files path).mapError (CommandError.notLoaded path)

/-- What the options of a render change in the display settings. -/
def displayFor (r : RenderRequest) (d : DisplaySettings) : DisplaySettings :=
  { d with
    framesDirectory := r.framesDirectory <|> d.framesDirectory
    window := d.window && !r.noWindow
    enabled := d.enabled && !r.noDisplay }

/-- The settings of a render. -/
def settingsFor (r : RenderRequest) (files : FileTree) : Logged (Except CommandError Settings) :=
  return (← loadedFor r files).map fun s => { s with display := displayFor r s.display }

/-- What a render works on: its input channels, and host settings that run at the input's rate. -/
structure Source where
  channels : List (Array Float32)
  host : HostSettings

/-- The source of a render. -/
def sourceFor (r : RenderRequest) (host : HostSettings) (files : FileTree) : Logged (Except CommandError Source) := do
  match r.input with
  | none => return if r.effect.needsInput then .error (.inputNeeded r.effect) else .ok ⟨[], host⟩
  | some path =>
    match ← Wave.load files path with
    | .error error => return .error (.notRead path error)
    | .ok clip =>
      if clip.sampleRate ≠ host.sampleRate then
        log .info commandTarget "Using the input file's sample rate"
          [⟨"file_rate", .count clip.sampleRate.toNat⟩, ⟨"config_rate", .count host.sampleRate.toNat⟩]
      return .ok ⟨clip.channels, { host with sampleRate := clip.sampleRate }⟩

/-- The number of frames to render: those of the time asked for, else those of the longest input
channel, else one second. -/
def framesFor {φ : Type} (r : RenderRequest) (source : Source) (host : Host φ) : Except CommandError Nat :=
  match r.seconds with
  | some seconds => (host.framesForSeconds seconds).mapError fun e => .badSeconds seconds (.configuration e)
  | none => .ok (if source.channels.isEmpty then source.host.sampleRate.toNat else Wave.longest source.channels)

/-- The host with the scope that the settings ask for, if any. -/
def withScopeFor (display : DisplaySettings) (host : Host (ConfiguredScreen windows)) (files : FileTree) :
    Logged (Except CommandError (Host (ConfiguredScreen windows)) × FileTree) := do
  if display.enabled then
    match ← ConfiguredScreen.create display files windows with
    | (.error error, files) => return (.error (.noScreen error), files)
    | (.ok screen, files) =>
      match ← Scope.ofSettings screen display with
      | .error error => return (.error (.failed error), files)
      | .ok scope => return (.ok (host.withScope scope), files)
  else return (.ok host, files)

/-- The tree of files with what the scope of a host wrote to it. -/
def filesAfter (host : Host (ConfiguredScreen windows)) (before : FileTree) : FileTree :=
  match host.scope with
  | some scope => scope.screen.filesAfter before
  | none => before

/-- The end of a command: the text it prints, or why it failed, and the files after it. -/
structure Outcome where
  result : Except CommandError String
  files : FileTree

/-- Keeps or reports the audio of a finished render. -/
def finish {φ : Type} (r : RenderRequest) (host : Host φ) (frames : Nat) (audio : List (Array Float32))
    (files : FileTree) : Logged Outcome := do
  let summary := "Rendered " ++ toString frames ++ " frames of '" ++ r.effect.name ++ "' "
  match r.output with
  | none => return ⟨.ok (summary ++ "in " ++ toString host.buffers ++ " buffers\n"), files⟩
  | some path =>
    match ← Wave.save files path ⟨host.settings.sampleRate, audio⟩ with
    | (.error error, files) => return ⟨.error (.notWritten path error), files⟩
    | (.ok (), files) => return ⟨.ok (summary ++ "to " ++ path ++ "\n"), files⟩

/-- Runs the effect and keeps its audio. -/
def renderWith (r : RenderRequest) (source : Source) (host : Host (ConfiguredScreen windows)) (frames : Nat)
    (files : FileTree) : Logged Outcome := do
  let effect ← r.effect.build
  let rendered ← host.run effect source.channels frames
  let files := filesAfter rendered.host files
  match rendered.result with
  | .error error => return ⟨.error (.failed error), files⟩
  | .ok audio =>
    match rendered.host.scope with
    | some scope => log .info commandTarget "Scope frames rendered" [⟨"frames", .count scope.frames⟩]
    | none => pure ()
    finish r rendered.host frames audio files

/-- The host and the number of frames of a render. -/
def prepare {φ : Type} (r : RenderRequest) (source : Source) : Except CommandError (Host φ × Nat) := do
  let host ← (Host.create source.host).mapError fun e => .failed (.configuration e)
  let frames ← framesFor r source host
  return (host, frames)

/-- Renders from a source. -/
def renderFrom (r : RenderRequest) (display : DisplaySettings) (source : Source) (files : FileTree)
    (windows : WindowSystem := .absent) : Logged Outcome := do
  match prepare r source with
  | .error error => return ⟨.error error, files⟩
  | .ok ((host : Host (ConfiguredScreen windows)), frames) =>
    match ← withScopeFor display host files with
    | (.error error, files) => return ⟨.error error, files⟩
    | (.ok host, files) => renderWith r source host frames files

/-- Renders an effect. -/
def render (r : RenderRequest) (files : FileTree) (windows : WindowSystem := .absent) : Logged Outcome := do
  match ← settingsFor r files with
  | .error error => return ⟨.error error, files⟩
  | .ok settings =>
    match ← sourceFor r settings.host files with
    | .error error => return ⟨.error error, files⟩
    | .ok source => renderFrom r settings.display source files windows

/-- Runs a command on a tree of files, with a window system if there is one. -/
def run (action : Action) (files : FileTree) (windows : WindowSystem := .absent) : Logged Outcome := do
  log .info commandTarget "PySynth starting..."
  match action with
  | .effects => return ⟨.ok effectsListing, files⟩
  | .render request => render request files windows

end BufferScope.Command
