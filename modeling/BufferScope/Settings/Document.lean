/-
Settings as documents. Every setting has a key, and one whose key is missing takes its default;
unknown keys do not matter, as long as their values can be read. A section may also be an array of
its settings in order, and what follows them there is not read.
-/
import BufferScope.Settings.Basic
import BufferScope.Toml.Document
import BufferScope.Toml.Writer

namespace BufferScope

open Toml (Value Entries Section)

/-! ## Reading -/

/-- The settings of a section: by key in a table, by place in an array. A date has none. -/
def sectionFields : Value → Option (Nat → String → Option Value)
  | .table _ entries => if Toml.entriesSound entries then some fun _ key => Entries.get? entries key else none
  | .list _ items => some fun place _ => items[place]?
  | .moment _ => some fun _ _ => none
  | _ => none

/-- The value of a setting, or its default where there is none. -/
def orDefault {α : Type} (read : Value → Option α) (default : α) : Option Value → Option α
  | none => some default
  | some v => read v

/-- A whole number below a bound. -/
def readWhole (bound : Nat) : Value → Option Nat
  | .whole n => if 0 ≤ n ∧ n < bound then some n.toNat else none
  | _ => none

def readWord32 (v : Value) : Option UInt32 := (readWhole UInt32.size v).map UInt32.ofNat

def readWord64 (v : Value) : Option UInt64 := (readWhole UInt64.size v).map UInt64.ofNat

def readBoolean : Value → Option Bool
  | .boolean b => some b
  | _ => none

def readString : Value → Option String
  | .text s => some s
  | _ => none

def HostSettings.ofValue (v : Value) : Option HostSettings := do
  let field ← sectionFields v
  let default : HostSettings := {}
  let sampleRate ← orDefault readWord32 default.sampleRate (field 0 "sample_rate")
  let bufferSize ← orDefault readWord64 default.bufferSize (field 1 "buffer_size")
  let outputChannels ← orDefault readWord64 default.outputChannels (field 2 "output_channels")
  return { sampleRate, bufferSize, outputChannels }

def DisplaySettings.ofValue (v : Value) : Option DisplaySettings := do
  let field ← sectionFields v
  let default : DisplaySettings := {}
  let enabled ← orDefault readBoolean default.enabled (field 0 "enabled")
  let window ← orDefault readBoolean default.window (field 1 "window")
  let title ← orDefault readString default.title (field 2 "title")
  let width ← orDefault readWord32 default.width (field 3 "width")
  let height ← orDefault readWord32 default.height (field 4 "height")
  let framesDirectory ← orDefault (fun v => (readString v).map some) none (field 5 "frames_dir")
  return { enabled, window, title, width, height, framesDirectory }

/-- The settings that the entries of a document give. -/
def Settings.ofEntries (entries : Entries) : Option Settings := do
  let host ← orDefault HostSettings.ofValue {} (entries.get? "host")
  let display ← orDefault DisplaySettings.ofValue {} (entries.get? "display")
  let unknown := entries.filter fun (key, _) => key ≠ "host" && key ≠ "display"
  if Toml.entriesSound unknown then return { host, display } else none

/-- The settings in a text. Only those without a fault are accepted. -/
def Settings.parse (text : String) : Except SettingsError Settings :=
  match Toml.read text >>= Settings.ofEntries with
  | none => .error .notReadable
  | some settings => settings.checked

/-! ## Writing -/

def HostSettings.section (h : HostSettings) : Section where
  name := "host"
  entries :=
    [("sample_rate", .whole h.sampleRate.toNat), ("buffer_size", .whole h.bufferSize.toNat),
     ("output_channels", .whole h.outputChannels.toNat)]

def DisplaySettings.section (d : DisplaySettings) : Section where
  name := "display"
  entries :=
    [("enabled", .boolean d.enabled), ("window", .boolean d.window), ("title", .text d.title),
     ("width", .whole d.width.toNat), ("height", .whole d.height.toNat)]
    ++ match d.framesDirectory with
      | none => []
      | some directory => [("frames_dir", .text directory)]

/-- The text of settings. -/
def Settings.text (s : Settings) : String :=
  String.ofList (Toml.writeSections [s.host.section, s.display.section])

end BufferScope
