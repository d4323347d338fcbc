/-
What presenting an effect hands to a screen: the picture of the effect's plot, at the size of the
scope, or nothing where there is no plot. Only a frame that the screen took is counted, and only the
screen's own answer can be a failure.
-/
import BufferScope.Scope

namespace BufferScope

/-- A frame that a screen was handed, and what the screen answered. -/
structure Blit where
  frame : Canvas
  answer : Except AudioError Unit

/-- Whether the screen took the frame. -/
def Blit.taken (b : Blit) : Bool := b.answer.isOk

namespace Scope

variable {φ ε σ ρ : Type} [BufferEffect ε σ ρ]
variable [Add ρ] [Sub ρ] [Mul ρ] [Div ρ] [Neg ρ] [Zero ρ] [One ρ] [NatCast ρ] [IntCast ρ]
  [LT ρ] [DecidableLT ρ] [BEq ρ] [RealNumber ρ]

/-- The picture of an effect's plot, at the size of the scope. -/
def picture? (s : Scope φ) (effect : ε) : Option Canvas :=
  (BufferEffect.plot effect).bind fun plot => (plot.render s.width s.height).toOption

/-- A scope has a picture of every plot: its size is no obstacle. -/
theorem picture?_eq_some (s : Scope φ) {effect : ε} {plot : Plot ρ}
    (plotted : BufferEffect.plot effect = some plot) :
    ∃ frame, plot.render s.width s.height = .ok frame ∧ s.picture? effect = some frame := by
  have sized : ¬(s.width = 0 ∨ s.height = 0) := by
    have := s.nonempty
    omega
  unfold picture? Plot.render
  rw [plotted, if_neg sized]
  exact ⟨_, rfl, by rw [Option.bind_some, if_neg sized]; rfl⟩

variable [Screen φ]

/-- What presenting an effect hands to the screen, with the screen's answer. -/
def blit? (s : Scope φ) (effect : ε) : Option Blit :=
  (s.picture? effect).map fun frame => ⟨frame, (Screen.blit s.screen frame).value.1⟩

/-- The scope after its screen was handed a frame, or none. -/
def showing (s : Scope φ) : Option Blit → Scope φ
  | none => s
  | some b => { s with
      screen := (Screen.blit s.screen b.frame).value.2
      frames := s.frames + if b.taken then 1 else 0 }

@[simp] theorem width_showing (s : Scope φ) (blit : Option Blit) : (s.showing blit).width = s.width := by
  cases blit <;> rfl

@[simp] theorem height_showing (s : Scope φ) (blit : Option Blit) : (s.showing blit).height = s.height := by
  cases blit <;> rfl

@[simp] theorem picture?_showing (s : Scope φ) (blit : Option Blit) (effect : ε) :
    (s.showing blit).picture? effect = s.picture? effect := by
  cases blit <;> rfl

/-- Presenting hands the picture to the screen, if there is one, and answers as the screen does. -/
theorem value_present (s : Scope φ) (effect : ε) :
    (s.present effect).value = (((s.blit? effect).map Blit.answer).getD (.ok ()), s.showing (s.blit? effect)) := by
  unfold present blit?
  cases plotted : BufferEffect.plot effect with
  | none =>
    have blank : s.picture? effect = none := by simp [picture?, plotted]
    rw [blank]
    rfl
  | some plot =>
    obtain ⟨frame, rendered, drawn⟩ := s.picture?_eq_some plotted
    rw [drawn]
    simp only [showPlot, rendered, Option.map_some, Option.getD_some, showing, Logged.value_bind]
    rcases (Screen.blit s.screen frame).value with ⟨error | _, screen⟩
    · rfl
    · rfl

end Scope

end BufferScope
