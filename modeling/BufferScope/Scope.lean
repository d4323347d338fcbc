/-
The scope: it draws an effect's plot after each buffer and hands the picture to a screen. It counts
the frames that the screen took.
-/
import BufferScope.Effect.Basic

namespace BufferScope

/-- A surface for frames. -/
class Screen (φ : Type) where
  title : φ → String
  /-- Shows a frame in place of the one before. A screen may change even when it fails. -/
  blit : φ → Canvas → Logged (Except AudioError Unit × φ)

/-- A screen with the size of the frames for it. -/
structure Scope (φ : Type) where
  screen : φ
  width : Nat
  height : Nat
  /-- The frames shown so far. Counted one by one, they fit 64 bits. -/
  frames : Nat := 0
  nonempty : 0 < width ∧ 0 < height

namespace Scope

variable {φ ε σ ρ : Type} [Screen φ]

/-- A scope on a screen, for frames with at least one pixel. -/
def attach (screen : φ) (width height : Nat) : Logged (Except AudioError (Scope φ)) := do
  if nonempty : 0 < width ∧ 0 < height then
    log .info "pysynth_core::domain::display" "Scope attached"
      [⟨"title", .quoted (Screen.title screen)⟩, ⟨"width", .count width⟩, ⟨"height", .count height⟩]
    return .ok { screen, width, height, nonempty }
  else return .error (.render (.emptyScope width height))

variable [Add ρ] [Sub ρ] [Mul ρ] [Div ρ] [Neg ρ] [Zero ρ] [One ρ] [NatCast ρ] [IntCast ρ]
  [LT ρ] [DecidableLT ρ] [BEq ρ] [RealNumber ρ]

/-- Draws a plot and shows it. Only a frame that the screen took is counted. -/
def showPlot (s : Scope φ) (effectName : String) (plot : Plot ρ) : Logged (Except AudioError Unit × Scope φ) := do
  match plot.render s.width s.height with
  | .error error => return (.error (.render error), s)
  | .ok frame =>
    let (result, screen) ← Screen.blit s.screen frame
    match result with
    | .error error => return (.error error, { s with screen })
    | .ok () =>
      let frames := s.frames + 1
      log .trace "pysynth_core::domain::display" "Presented scope frame"
        [⟨"effect", .quoted effectName⟩, ⟨"frame", .count frames⟩]
      return (.ok (), { s with screen, frames })

/-- Shows the plot of an effect. An effect without one leaves the screen as it is. -/
def present [BufferEffect ε σ ρ] (s : Scope φ) (effect : ε) : Logged (Except AudioError Unit × Scope φ) :=
  match BufferEffect.plot effect with
  | none => return (.ok (), s)
  | some plot => s.showPlot (BufferEffect.name effect) plot

end Scope

end BufferScope
