/-
What a host sees of an effect: a state machine that fills output channels buffer by buffer and has
a plot to show for it.
-/
import BufferScope.Audio.Buffer
import BufferScope.Plot.Basic

namespace BufferScope

/-- The end of a call on one buffer: whether it worked, the effect after it, and what the output
channels hold. -/
structure Processed (ε σ : Type) where
  result : Except AudioError Unit
  effect : ε
  outputs : List (Array σ)

/-- A call that failed without touching the effect or the outputs. -/
def Processed.refused {ε σ : Type} (effect : ε) (outputs : List (Array σ)) (error : AudioError) : Processed ε σ :=
  ⟨.error error, effect, outputs⟩

/-- An effect over samples `σ` and reals `ρ`. -/
class BufferEffect (ε : Type) (σ ρ : outParam Type) where
  name : ε → String
  /-- Processes one buffer. Every output channel keeps its length. -/
  process : ε → (inputs outputs : List (Array σ)) → (rate : ρ) → Logged (Processed ε σ)
  /-- The plot of the last buffer, if there was one. -/
  plot : ε → Option (Plot ρ)
  /-- Back to the state of a new effect. -/
  reset : ε → ε

end BufferScope
