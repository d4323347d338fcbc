/-
The settings of a render: what the host supplies to every effect, and what the scope shows and
where. `Settings.fault` names what no host could run with, if anything.
-/
import BufferScope.Audio.Error

namespace BufferScope

/-- What the host supplies to every effect. -/
structure HostSettings where
  /-- Samples per second. -/
  sampleRate : UInt32 := 44100
  /-- Samples per buffer. -/
  bufferSize : UInt64 := 512
  /-- The number of channels that an effect fills. -/
  outputChannels : UInt64 := 2
  deriving DecidableEq, Repr

/-- What the scope shows. -/
structure DisplaySettings where
  /-- Whether a frame is drawn after every buffer. -/
  enabled : Bool := true
  /-- Whether frames go to a window, when no directory is set. -/
  window : Bool := true
  title : String := "Testing"
  width : UInt32 := 640
  height : UInt32 := 480
  /-- The directory that frames are written to. -/
  framesDirectory : Option String := none
  deriving DecidableEq, Repr

structure Settings where
  host : HostSettings := {}
  display : DisplaySettings := {}
  deriving DecidableEq, Repr

/-! ## Validity -/

/-- A setting that no host could run with. -/
inductive SettingsFault where
  | sampleRate
  | bufferSize
  | outputChannels
  | emptyDisplay (width height : Nat)
  deriving DecidableEq, Repr

def SettingsFault.message : SettingsFault → String
  | .sampleRate => "sample_rate must be non-zero"
  | .bufferSize => "buffer_size must be non-zero"
  | .outputChannels => "at least one output channel is required"
  | .emptyDisplay width height => "display must be non-empty, got " ++ toString width ++ "x" ++ toString height

/-- The first fault of the settings, if they have one. -/
def Settings.fault? (s : Settings) : Option SettingsFault :=
  if s.host.sampleRate = 0 then some .sampleRate
  else if s.host.bufferSize = 0 then some .bufferSize
  else if s.host.outputChannels = 0 then some .outputChannels
  else if s.display.width = 0 ∨ s.display.height = 0 then
    some (.emptyDisplay s.display.width.toNat s.display.height.toNat)
  else none

/-- Why settings could not be read or kept. -/
inductive SettingsError where
  | file (cause : FileError)
  /-- The text is no document, or one of other things than settings. -/
  | notReadable
  | invalid (fault : SettingsFault)
  deriving DecidableEq, Repr

def SettingsError.message : SettingsError → String
  | .file cause => "IO error: " ++ cause.message
  | .notReadable => "TOML parsing error"
  | .invalid fault => "Invalid configuration: " ++ fault.message

/-- Accepts settings without a fault. -/
def Settings.checked (s : Settings) : Except SettingsError Settings :=
  match s.fault? with
  | none => .ok s
  | some fault => .error (.invalid fault)

end BufferScope
