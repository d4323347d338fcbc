/-
A screen that keeps a record of the frames it was handed. It answers as the screen inside does, so a
scope and a host cannot tell the difference.
-/
import BufferScope.Host
import BufferScope.Proofs.Screen.Blit

namespace BufferScope

/-- A screen and what it was handed so far. -/
structure ScreenRecorder (φ : Type) where
  screen : φ
  blits : List Blit := []

namespace ScreenRecorder

instance {φ : Type} [Screen φ] : Screen (ScreenRecorder φ) where
  title recorder := Screen.title recorder.screen
  blit recorder frame := do
    let (answer, screen) ← Screen.blit recorder.screen frame
    return (answer, ⟨screen, recorder.blits ++ [⟨frame, answer⟩]⟩)

end ScreenRecorder

namespace Scope

variable {φ ε σ ρ : Type}

/-- The scope with its screen under record. -/
def watched (s : Scope φ) : Scope (ScreenRecorder φ) :=
  ⟨⟨s.screen, []⟩, s.width, s.height, s.frames, s.nonempty⟩

/-- The scope without the record of its screen. -/
def unwatched (s : Scope (ScreenRecorder φ)) : Scope φ :=
  ⟨s.screen.screen, s.width, s.height, s.frames, s.nonempty⟩

variable [Screen φ] [BufferEffect ε σ ρ]
variable [Add ρ] [Sub ρ] [Mul ρ] [Div ρ] [Neg ρ] [Zero ρ] [One ρ] [NatCast ρ] [IntCast ρ]
  [LT ρ] [DecidableLT ρ] [BEq ρ] [RealNumber ρ]

/-- What the screen is handed, it is handed with and without a record; with one it is noted. -/
theorem showing_unwatched (s : Scope (ScreenRecorder φ)) (effect : ε) :
    (s.showing (s.blit? effect)).unwatched = s.unwatched.showing (s.blit? effect) ∧
      (s.showing (s.blit? effect)).screen.blits = s.screen.blits ++ (s.blit? effect).toList := by
  unfold blit?
  cases s.picture? effect with
  | none => exact ⟨rfl, (List.append_nil _).symm⟩
  | some frame => exact ⟨rfl, rfl⟩

end Scope

namespace Host

variable {φ : Type}

/-- The host with its screen under record. -/
def watched (h : Host φ) : Host (ScreenRecorder φ) :=
  ⟨h.settings, h.scope.map Scope.watched, h.buffers, h.hasRate, h.hasFrames, h.hasOutput⟩

/-- The host without the record of its screen. -/
def unwatched (h : Host (ScreenRecorder φ)) : Host φ :=
  ⟨h.settings, h.scope.map Scope.unwatched, h.buffers, h.hasRate, h.hasFrames, h.hasOutput⟩

/-- What the screen of a host was handed so far. -/
def blitted (h : Host (ScreenRecorder φ)) : List Blit := (h.scope.map fun scope => scope.screen.blits).getD []

theorem unwatched_watched (h : Host φ) : h.watched.unwatched = h := by
  rcases h with ⟨settings, _ | scope, buffers, _, _, _⟩
  · rfl
  · rfl

theorem blitted_watched (h : Host φ) : h.watched.blitted = [] := by
  rcases h with ⟨settings, _ | scope, buffers, _, _, _⟩
  · rfl
  · rfl

end Host

end BufferScope
