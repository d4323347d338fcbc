/-
The spectral round trip: input channel 0 goes to its spectrum and back, the real part comes out on
every channel, and the plot shows the spectrum.
-/
import BufferScope.Effect.Basic
import BufferScope.Spectrum.Processor

namespace BufferScope

/-- The last buffer's spectrum and its way back, and the parts of both that are shown or come out. -/
structure SpectralRoundTrip (ρ : Type) where
  processor : Spectrum.Processor := {}
  spectrum : Array (Complex ρ) := #[]
  restored : Array (Complex ρ) := #[]
  realParts : Array ρ := #[]
  imaginaryParts : Array ρ := #[]
  reconstruction : Array ρ := #[]

namespace SpectralRoundTrip

variable {σ ρ : Type}

/-- A new effect. -/
def new : Logged (SpectralRoundTrip ρ) := do
  log .info "pysynth_core::domain::spectral" "Creating spectral round-trip effect"
  return {}

variable [Add ρ] [Sub ρ] [Mul ρ] [Div ρ] [Neg ρ] [Zero ρ] [One ρ] [NatCast ρ] [Circular ρ] [Sample ρ σ]

def process (e : SpectralRoundTrip ρ) (inputs outputs : List (Array σ)) (_rate : ρ) :
    Logged (Processed (SpectralRoundTrip ρ) σ) := do
  match Audio.acceptedInput ρ inputs with
  | .error error => return .refused e outputs error
  | .ok input =>
    let (spectrum, processor) ← e.processor.forward (ρ := ρ) input
    match spectrum with
    | .error error => return .refused { e with processor } outputs (.transform error)
    | .ok spectrum =>
      let (restored, processor) ← processor.inverse spectrum
      match restored with
      | .error error => return .refused { e with processor, spectrum } outputs (.transform error)
      | .ok restored =>
        let reconstruction := restored.map (·.re)
        let outputs ← Audio.fanOut outputs reconstruction
        log .trace "pysynth_core::domain::spectral" "Spectral round-trip processed buffer"
          [⟨"frames", .count input.size⟩, ⟨"channels", .count outputs.length⟩]
        let e : SpectralRoundTrip ρ :=
          { processor, spectrum, restored, realParts := spectrum.map (·.re), imaginaryParts := spectrum.map (·.im),
            reconstruction }
        return ⟨.ok (), e, outputs⟩

/-- The real and the imaginary parts of the spectrum. -/
def plot (e : SpectralRoundTrip ρ) : Option (Plot ρ) :=
  if e.spectrum.isEmpty then none
  else some (((Plot.spanning (e.spectrum.size : ρ)).withSeries "f.real" e.realParts).withSeries "f.imag"
    e.imaginaryParts)

/-- The processor stays, and with it the length that its log compares with. -/
def reset (e : SpectralRoundTrip ρ) : SpectralRoundTrip ρ := { processor := e.processor }

instance : BufferEffect (SpectralRoundTrip ρ) σ ρ where
  name _ := "spectral"
  process := process
  plot := plot
  reset := reset

end SpectralRoundTrip

end BufferScope
