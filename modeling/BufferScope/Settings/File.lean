/-
Settings in a tree of files.
-/
import BufferScope.Files
import BufferScope.Log
import BufferScope.Settings.Document

namespace BufferScope

/-- Where the events of this module come from. -/
def settingsTarget : String := "pysynth_core::domain::config"

/-- The settings in the file at a path. -/
def Settings.ofFile (files : FileTree) (path : String) : Except SettingsError Settings :=
  match files.readText path with
  | .error error => .error (.file error)
  | .ok text => Settings.parse text

/-- Loads the settings at `path`. -/
def Settings.load (files : FileTree) (path : String) : Logged (Except SettingsError Settings) :=
  Logged.within ⟨"load_from_file", settingsTarget⟩ do
    log .info settingsTarget "Loading configuration" [⟨"path", .plain path⟩]
    match Settings.ofFile files path with
    | .error error => return .error error
    | .ok settings =>
      log .debug settingsTarget "Configuration loaded successfully"
      return .ok settings

/-- Saves settings to `path`, in a directory that is made if need be. -/
def Settings.save (s : Settings) (files : FileTree) (path : String) :
    Logged (Except SettingsError Unit × FileTree) :=
  Logged.within ⟨"save_to_file", settingsTarget⟩ do
    log .info settingsTarget "Saving configuration" [⟨"path", .plain path⟩]
    match files.makeParent path with
    | (.error error, files) => return (.error (.file error), files)
    | (.ok (), files) =>
      match files.write path (.bytes (textBytes s.text)) with
      | .error error => return (.error (.file error), files)
      | .ok files =>
        log .debug settingsTarget "Configuration saved successfully"
        return (.ok (), files)

end BufferScope
