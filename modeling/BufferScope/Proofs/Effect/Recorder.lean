/-
An effect that keeps a record of the calls made on it. It answers, and looks, as the effect inside
it does.
-/
import BufferScope.Proofs.Effect.History

namespace BufferScope

/-- An effect and the calls made on it so far. -/
structure Recorder (ε σ ρ : Type) where
  effect : ε
  calls : List (Call ε σ ρ) := []

namespace Recorder

variable {ε σ ρ : Type} [BufferEffect ε σ ρ]

instance : BufferEffect (Recorder ε σ ρ) σ ρ where
  name recorder := BufferEffect.name recorder.effect
  process recorder inputs outputs rate := do
    let answer ← BufferEffect.process recorder.effect inputs outputs rate
    return ⟨answer.result, ⟨answer.effect, recorder.calls ++ [⟨⟨inputs, outputs, rate⟩, answer⟩]⟩,
      answer.outputs⟩
  plot recorder := BufferEffect.plot recorder.effect
  reset recorder := ⟨BufferEffect.reset recorder.effect, []⟩

end Recorder

end BufferScope
