/-
The effects that can be asked for by name.
-/
import BufferScope.Effect.Spectral
import BufferScope.Effect.Tone
import BufferScope.Effect.Wavelet

namespace BufferScope

/-- The available effects. -/
inductive EffectKind where
  | spectral
  | tone
  | wavelet
  deriving DecidableEq, Repr

namespace EffectKind

/-- All effects, in the order they are listed. -/
def all : List EffectKind := [.spectral, .tone, .wavelet]

def name : EffectKind → String
  | .spectral => "spectral"
  | .tone => "tone"
  | .wavelet => "wavelet"

def description : EffectKind → String
  | .spectral => "FFT round-trip of input channel 0, plots Re/Im of the spectrum"
  | .tone => "decaying 250 Hz sine continuous across buffers, plots the samples"
  | .wavelet => "db2/smooth wavelet round-trip of input channel 0, plots cA/cD"

/-- Whether the effect reads input channel 0. -/
def needsInput : EffectKind → Bool
  | .spectral => true
  | .tone => false
  | .wavelet => true

/-- The effect that a name or a short form stands for. Letter case does not matter. -/
def named (name : String) : Except ConfigurationError EffectKind :=
  match name.toLower with
  | "spectral" | "fft" => .ok .spectral
  | "tone" | "sin" | "sine" => .ok .tone
  | "wavelet" | "wavelets" | "dwt" => .ok .wavelet
  | other => .error (.unknownEffect other)

end EffectKind

/-- One of the available effects, at work on floating-point buffers. -/
inductive BuiltInEffect where
  | spectral (effect : SpectralRoundTrip Float)
  | tone (effect : Tone Float)
  | wavelet (effect : WaveletRoundTrip Float)

namespace BuiltInEffect

/-- Puts what became of the effect inside back into its case. -/
def rewrap {ε σ : Type} (wrap : ε → BuiltInEffect) (x : Logged (Processed ε σ)) :
    Logged (Processed BuiltInEffect σ) := do
  let p ← x
  return ⟨p.result, wrap p.effect, p.outputs⟩

instance : BufferEffect BuiltInEffect Float32 Float where
  name
    | .spectral e => BufferEffect.name e
    | .tone e => BufferEffect.name e
    | .wavelet e => BufferEffect.name e
  process
    | .spectral e, inputs, outputs, rate => rewrap .spectral (BufferEffect.process e inputs outputs rate)
    | .tone e, inputs, outputs, rate => rewrap .tone (BufferEffect.process e inputs outputs rate)
    | .wavelet e, inputs, outputs, rate => rewrap .wavelet (BufferEffect.process e inputs outputs rate)
  plot
    | .spectral e => BufferEffect.plot e
    | .tone e => BufferEffect.plot e
    | .wavelet e => BufferEffect.plot e
  reset
    | .spectral e => .spectral (BufferEffect.reset e)
    | .tone e => .tone (BufferEffect.reset e)
    | .wavelet e => .wavelet (BufferEffect.reset e)

end BuiltInEffect

/-- A new effect of the kind. -/
def EffectKind.build : EffectKind → Logged BuiltInEffect
  | .spectral => return .spectral (← SpectralRoundTrip.new)
  | .tone => return .tone (← Tone.new ToneParams.standard)
  | .wavelet => return .wavelet (← WaveletRoundTrip.new Wavelet.db2)

end BufferScope
