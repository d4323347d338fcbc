/-
A screen in memory, which counts its frames and keeps the last.
-/
import BufferScope.Scope

namespace BufferScope

structure MemoryScreen where
  title : String
  count : Nat := 0
  last : Option Canvas := none

namespace MemoryScreen

def blit (s : MemoryScreen) (frame : Canvas) : MemoryScreen :=
  { s with count := s.count + 1, last := some frame }

instance : Screen MemoryScreen where
  title := MemoryScreen.title
  blit s frame := return (.ok (), s.blit frame)

end MemoryScreen

end BufferScope
