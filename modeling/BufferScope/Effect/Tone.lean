/-
The tone: a sine whose phase runs on from buffer to buffer while its envelope decays by a factor
after each. Input channels are ignored.
-/
import BufferScope.Effect.Basic

namespace BufferScope

/-- The parameters of a tone. -/
structure ToneParams (ρ : Type) where
  /-- In hertz. -/
  frequency : ρ
  /-- The peak before the envelope. -/
  amplitude : ρ
  /-- What the envelope is multiplied by after each buffer. -/
  decay : ρ

/-- The tone of the registry. -/
def ToneParams.standard : ToneParams Float := ⟨250, 0.1, 0.99⟩

/-- A tone under way. `cursor` is the index of the next sample and `envelope` the gain of the next
buffer. -/
structure Tone (ρ : Type) where
  params : ToneParams ρ
  cursor : Nat
  envelope : ρ
  samples : Array ρ

namespace Tone

variable {σ ρ : Type}

/-- A tone at its start. -/
def atStart [One ρ] (params : ToneParams ρ) : Tone ρ := ⟨params, 0, 1, #[]⟩

/-- A new tone. -/
def new [One ρ] [RealNumber ρ] (params : ToneParams ρ) : Logged (Tone ρ) := do
  log .info "pysynth_core::domain::tone" "Creating tone generator"
    [⟨"frequency", .real (RealNumber.shown params.frequency)⟩,
     ⟨"amplitude", .real (RealNumber.shown params.amplitude)⟩,
     ⟨"decay", .real (RealNumber.shown params.decay)⟩]
  return atStart params

/-- The phase of sample `x`. The product is taken from left to right. -/
def phase [Mul ρ] [Div ρ] [NatCast ρ] [Circular ρ] (frequency rate : ρ) (x : Nat) : ρ :=
  ((2 : Nat) : ρ) * Circular.pi * frequency * (x : ρ) / rate

/-- The samples of one buffer. -/
def samplesFrom [Mul ρ] [Div ρ] [NatCast ρ] [Circular ρ] (gain frequency rate : ρ) (start length : Nat) :
    Array ρ :=
  Array.ofFn fun i : Fin length => gain * Circular.sin (phase frequency rate (start + i.val))

variable [Mul ρ] [Div ρ] [Neg ρ] [Zero ρ] [One ρ] [NatCast ρ] [LT ρ] [DecidableLT ρ] [RealNumber ρ]
  [Circular ρ] [Sample ρ σ]

/-- The length of the buffer that a call asks for. -/
def requested (outputs : List (Array σ)) (rate : ρ) : Except AudioError Nat := do
  Audio.ensureSampleRate rate
  Audio.firstOutputLength outputs

def process (e : Tone ρ) (_inputs outputs : List (Array σ)) (rate : ρ) : Logged (Processed (Tone ρ) σ) := do
  match requested outputs rate with
  | .error error => return .refused e outputs error
  | .ok length =>
    let samples := samplesFrom (e.envelope * e.params.amplitude) e.params.frequency rate e.cursor length
    let outputs ← Audio.fanOut outputs samples
    let cursor := e.cursor + length
    let envelope := e.envelope * e.params.decay
    log .trace "pysynth_core::domain::tone" "Tone generated buffer"
      [⟨"cursor", .count cursor⟩, ⟨"envelope", .real (RealNumber.shown envelope)⟩,
        ⟨"frames", .count length⟩]
    return ⟨.ok (), { e with cursor, envelope, samples }, outputs⟩

/-- The samples of the last buffer. -/
def plot (e : Tone ρ) : Option (Plot ρ) :=
  if e.samples.isEmpty then none
  else some ((Plot.spanning (e.samples.size : ρ)).withSeries "y" e.samples)

def reset (e : Tone ρ) : Tone ρ := atStart e.params

instance : BufferEffect (Tone ρ) σ ρ where
  name _ := "tone"
  process := process
  plot := plot
  reset := reset

end Tone

end BufferScope
