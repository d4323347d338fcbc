/-
The screen that display settings ask for: pictures in a directory if one is set, else a window of the
window system, else memory.
-/
import BufferScope.Screen.Memory
import BufferScope.Screen.PngSequence
import BufferScope.Screen.Window
import BufferScope.Settings.Basic

namespace BufferScope

inductive ConfiguredScreen (windows : WindowSystem := .absent) where
  | pictures (screen : PngSequence)
  | window (screen : windows.Window)
  | memory (screen : MemoryScreen)

namespace ConfiguredScreen

variable {windows : WindowSystem}

/-- Opens the screen that the settings ask for. Any directories made on the way are in the tree that
is returned. -/
def create (settings : DisplaySettings) (files : FileTree) (windows : WindowSystem := .absent) :
    Logged (Except AudioError (ConfiguredScreen windows) × FileTree) := do
  match settings.framesDirectory with
  | some directory =>
    let (screen, files) ← PngSequence.create settings.title directory files
    return (screen.map .pictures, files)
  | none =>
    if settings.window then
      let screen ← windows.openWindow settings.title settings.width settings.height
      return (screen.map .window, files)
    else return (.ok (.memory { title := settings.title }), files)

/-- The tree of files with what the screen wrote to it. -/
def filesAfter (s : ConfiguredScreen windows) (before : FileTree) : FileTree :=
  match s with
  | .pictures screen => screen.files
  | .window _ => before
  | .memory _ => before

instance : Screen (ConfiguredScreen windows) where
  title
    | .pictures screen => Screen.title screen
    | .window screen => Screen.title screen
    | .memory screen => Screen.title screen
  blit
    | .pictures screen, frame => do
      let (result, screen) ← Screen.blit screen frame
      return (result, .pictures screen)
    | .window screen, frame => do
      let (result, screen) ← Screen.blit screen frame
      return (result, .window screen)
    | .memory screen, frame => do
      let (result, screen) ← Screen.blit screen frame
      return (result, .memory screen)

end ConfiguredScreen

/-- A scope on a screen, sized by the settings. -/
def Scope.ofSettings {φ : Type} [Screen φ] (screen : φ) (settings : DisplaySettings) :
    Logged (Except AudioError (Scope φ)) :=
  Scope.attach screen settings.width.toNat settings.height.toNat

end BufferScope
