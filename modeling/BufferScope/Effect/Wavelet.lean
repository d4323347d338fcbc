/-
The wavelet round trip: input channel 0 is decomposed and reconstructed, the reconstruction comes
out on every channel, and the plot shows the two bands.
-/
import BufferScope.Effect.Basic
import BufferScope.Wavelet.Transform

namespace BufferScope

open Wavelet (FilterBank Extension Workspace)

/-- The last buffer, its bands and its reconstruction, before it is cut to the output channels. They are
kept from call to call, and the transforms work in them. -/
structure WaveletRoundTrip (ρ : Type) where
  bank : FilterBank ρ
  mode : Extension
  signal : Array ρ := #[]
  approx : Array ρ := #[]
  detail : Array ρ := #[]
  reconstruction : Array ρ := #[]

namespace WaveletRoundTrip

variable {σ ρ : Type}

/-- A new effect with the given bank, which extends signals smoothly. -/
def new (bank : FilterBank ρ) : Logged (WaveletRoundTrip ρ) := do
  log .info "pysynth_core::domain::wavelet" "Creating wavelet round-trip effect"
    [⟨"wavelet", .quoted bank.name⟩, ⟨"mode", .plain Extension.smooth.name⟩]
  return { bank, mode := .smooth }

/-- Notes a reconstruction that is longer than the input. -/
def noteLength (input reconstruction : Nat) : Logged Unit := do
  if reconstruction ≠ input then
    log .debug "pysynth_core::domain::wavelet" "Wavelet reconstruction length differs from input"
      [⟨"input_len", .count input⟩, ⟨"reconstruction_len", .count reconstruction⟩]

variable [Add ρ] [Sub ρ] [Mul ρ] [Neg ρ] [Zero ρ] [One ρ] [NatCast ρ] [Sample ρ σ]

def process (e : WaveletRoundTrip ρ) (inputs outputs : List (Array σ)) (_rate : ρ) :
    Logged (Processed (WaveletRoundTrip ρ) σ) := do
  match Audio.acceptedInput ρ inputs with
  | .error error => return .refused e outputs error
  | .ok input =>
    let signal := input.map (Sample.widen : σ → ρ)
    let (split, bands) := Workspace.decompose ⟨signal, e.approx, e.detail⟩ e.bank e.mode
    let e := { e with signal, approx := bands.approx, detail := bands.detail }
    match split with
    | .error error => return .refused e outputs (.transform error)
    | .ok () =>
      let (joined, rebuilt) := Workspace.reconstruct ⟨e.reconstruction, e.approx, e.detail⟩ e.bank
      let e := { e with reconstruction := rebuilt.signal }
      match joined with
      | .error error => return .refused e outputs (.transform error)
      | .ok () =>
        noteLength input.size e.reconstruction.size
        let outputs ← Audio.fanOut outputs e.reconstruction
        log .trace "pysynth_core::domain::wavelet" "Wavelet round-trip processed buffer"
          [⟨"frames", .count input.size⟩, ⟨"coefficients", .count e.approx.size⟩]
        return ⟨.ok (), e, outputs⟩

/-- The approximation and the detail coefficients. -/
def plot (e : WaveletRoundTrip ρ) : Option (Plot ρ) :=
  if e.approx.isEmpty then none
  else some (((Plot.spanning (e.approx.size : ρ)).withSeries "cA" e.approx).withSeries "cD" e.detail)

def reset (e : WaveletRoundTrip ρ) : WaveletRoundTrip ρ := { bank := e.bank, mode := e.mode }

instance : BufferEffect (WaveletRoundTrip ρ) σ ρ where
  name _ := "wavelet"
  process := process
  plot := plot
  reset := reset

end WaveletRoundTrip

end BufferScope
