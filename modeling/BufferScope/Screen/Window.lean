/-
Windows as screens. A window system opens windows with a title and a size, and may fail to. A window that
was opened takes frames or fails to, as any screen does, and has nothing to do with files.
-/
import BufferScope.Scope

namespace BufferScope

structure WindowSystem where
  Window : Type
  [screen : Screen Window]
  /-- Opens a window for frames of a size. -/
  openWindow (title : String) (width height : UInt32) : Logged (Except AudioError Window)

attribute [instance] WindowSystem.screen

instance : Screen Empty where
  title window := nomatch window
  blit window _ := nomatch window

/-- No window system. There are no windows, and none can be opened. -/
@[reducible] def WindowSystem.absent : WindowSystem where
  Window := Empty
  openWindow _ _ _ := return .error (.render .noDisplay)

end BufferScope
