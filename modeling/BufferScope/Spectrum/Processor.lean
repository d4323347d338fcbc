/-
The spectrum of a real signal and the way back. The inverse is normalized, so that it undoes the
forward transform. A processor remembers the length it worked on last, which only its log shows.
-/
import BufferScope.Audio.Error
import BufferScope.Complex
import BufferScope.Log
import BufferScope.Spectrum.Transform

namespace BufferScope.Spectrum

variable {σ ρ : Type} [Add ρ] [Sub ρ] [Mul ρ] [Div ρ] [Neg ρ] [Zero ρ] [One ρ] [NatCast ρ] [Circular ρ]

/-- The Fourier sums of `xs`. `place k` is the place among `xs.size` on the circle to which a turn by `k`
leads, counterclockwise. The points of the circle are computed once; a quarter turn needs none of them. -/
def sumsWith (place : Nat → Nat) (xs : Array (Complex ρ)) : Array (Complex ρ) :=
  let n := xs.size
  if empty : n = 0 then #[]
  else
    have positive : 0 < n := by omega
    let circle : Vector (Complex ρ) n := Vector.ofFn fun k => Complex.onCircle n k.val
    let turn (k : Nat) (z : Complex ρ) : Complex ρ :=
      let here := place k % n
      have inside : here < n := Nat.mod_lt _ positive
      if 4 * here % n = 0 then z.quarterTurns (4 * here / n) else circle[here] * z
    (fourierSums turn xs.toVector).toArray

/-- The spectrum: sums with clockwise turns. -/
def spectrum (xs : Array (Complex ρ)) : Array (Complex ρ) :=
  sumsWith (fun k => xs.size - k % xs.size) xs

/-- The signal of a spectrum: sums with counterclockwise turns, divided by the length. -/
def signal (xs : Array (Complex ρ)) : Array (Complex ρ) :=
  (sumsWith id xs).map fun z => z.scale (1 / (xs.size : ρ))

/-- Transforms buffers of changing lengths. -/
structure Processor where
  plannedLength : Nat := 0
  deriving DecidableEq, Repr

namespace Processor

/-- Turns to buffers of `length` samples. A change of length is logged. -/
def planFor (p : Processor) (length : Nat) : Logged Processor := do
  if length ≠ p.plannedLength then
    log .debug "pysynth_core::domain::transform::fft" "Planning FFT for new buffer length"
      [⟨"len", .count length⟩]
  return { p with plannedLength := length }

/-- The spectrum of a real signal. -/
def forward [Sample ρ σ] (p : Processor) (samples : Array σ) :
    Logged (Except TransformError (Array (Complex ρ)) × Processor) := do
  if samples.isEmpty then return (.error .emptySignal, p)
  let p ← p.planFor samples.size
  return (.ok (spectrum (samples.map fun s => Complex.ofReal (Sample.widen s))), p)

/-- The signal of a spectrum, normalized. -/
def inverse (p : Processor) (bins : Array (Complex ρ)) :
    Logged (Except TransformError (Array (Complex ρ)) × Processor) := do
  if bins.isEmpty then return (.error .emptySpectrum, p)
  let p ← p.planFor bins.size
  return (.ok (signal bins), p)

end Processor

end BufferScope.Spectrum
