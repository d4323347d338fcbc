/-
The offline host: it cuts a signal into buffers, drives an effect over them one by one, refreshes
the scope after each, and joins what the effect left in the output channels. The first failure ends
a run.

There is always memory: buffers are not reserved before a run, where sizes from `2 ^ 61` on would be
refused, and an allocation never fails. Counters are natural numbers; one that goes up with each buffer
or frame does not come to `2 ^ 64` in any run that a machine can finish.
-/
import BufferScope.Effect.Basic
import BufferScope.Scope
import BufferScope.Settings.Basic

namespace BufferScope

/-- A host with usable settings. -/
structure Host (φ : Type) where
  settings : HostSettings
  scope : Option (Scope φ) := none
  /-- The buffers completed so far, over all runs. Counted one by one, they fit 64 bits. -/
  buffers : Nat := 0
  hasRate : settings.sampleRate ≠ 0
  hasFrames : 0 < settings.bufferSize.toNat
  hasOutput : 0 < settings.outputChannels.toNat

namespace Host

variable {φ ε σ ρ : Type}

/-- A host without a scope. -/
def create (settings : HostSettings) : Except ConfigurationError (Host φ) :=
  if hasRate : settings.sampleRate = 0 then .error .hostSampleRate
  else if hasFrames : settings.bufferSize.toNat = 0 then .error .hostBufferSize
  else if hasOutput : settings.outputChannels.toNat = 0 then .error .hostChannels
  else .ok { settings, hasRate, hasFrames := by omega, hasOutput := by omega }

/-- The host with a scope that is refreshed after every buffer. -/
def withScope (h : Host φ) (scope : Scope φ) : Host φ := { h with scope := some scope }

/-- The sample rate that effects are told. -/
def rate (ρ : Type) [NatCast ρ] (h : Host φ) : ρ := (h.settings.sampleRate.toNat : ρ)

/-- The longest render that can be asked for in seconds. -/
def maxSeconds : Nat := 3600

/-- The number of frames in a stretch of time, to the nearest. -/
def framesForSeconds [Mul ρ] [Zero ρ] [NatCast ρ] [LT ρ] [DecidableLT ρ] [RealNumber ρ] (h : Host φ)
    (seconds : ρ) : Except ConfigurationError Nat :=
  if !RealNumber.isFinite seconds || decide (seconds < 0) then
    .error (.renderLength (RealNumber.shown seconds))
  else if (maxSeconds : ρ) < seconds then
    .error (.renderTooLong (RealNumber.shown seconds) (RealNumber.shown (maxSeconds : ρ)))
  else .ok (RealNumber.round (seconds * h.rate ρ)).toNat

end Host

/-! ## Buffers -/

/-- The samples of a channel from `offset` on; silence follows its end. -/
def sliceOf (ρ : Type) {σ : Type} [Sample ρ σ] (channel : Array σ) (offset length : Nat) : Array σ :=
  Array.ofFn fun k : Fin length =>
    if h : offset + k.val < channel.size then channel[offset + k.val] else Sample.silence ρ

/-- Output channels before an effect fills them. -/
def silentChannels (ρ : Type) {σ : Type} [Sample ρ σ] (count length : Nat) : List (Array σ) :=
  List.replicate count (Array.replicate length (Sample.silence ρ))

/-- A run under way: the host, the effect, and the output so far. -/
structure Pass (φ ε σ : Type) where
  host : Host φ
  effect : ε
  rendered : List (Array σ)

namespace Pass

variable {φ ε σ ρ : Type} [Screen φ] [BufferEffect ε σ ρ] [Sample ρ σ]
variable [Add ρ] [Sub ρ] [Mul ρ] [Div ρ] [Neg ρ] [Zero ρ] [One ρ] [NatCast ρ] [IntCast ρ]
  [LT ρ] [DecidableLT ρ] [BEq ρ] [RealNumber ρ]

/-- Refreshes the scope, if there is one. -/
def refresh (p : Pass φ ε σ) : Logged (Except AudioError Unit × Pass φ ε σ) := do
  match p.host.scope with
  | none => return (.ok (), p)
  | some scope =>
    let (result, scope) ← scope.present p.effect
    return (result, { p with host := p.host.withScope scope })

/-- Joins a buffer to the output and counts it. -/
def complete (p : Pass φ ε σ) (outputs : List (Array σ)) : Pass φ ε σ :=
  { p with
    host := { p.host with buffers := p.host.buffers + 1 }
    rendered := List.zipWith (· ++ ·) p.rendered outputs }

/-- Processes the buffer at `offset`, shows it, and joins it to the output. -/
def buffer (p : Pass φ ε σ) (inputs : List (Array σ)) (offset length : Nat) :
    Logged (Except AudioError Unit × Pass φ ε σ) := do
  let slices := inputs.map fun channel => sliceOf ρ channel offset length
  let outputs := silentChannels ρ p.host.settings.outputChannels.toNat length
  let processed ← BufferEffect.process p.effect slices outputs (p.host.rate ρ)
  let p := { p with effect := processed.effect }
  match processed.result with
  | .error error => return (.error error, p)
  | .ok () =>
    let (shown, p) ← p.refresh
    match shown with
    | .error error => return (.error error, p)
    | .ok () =>
      let p := p.complete processed.outputs
      log .trace "pysynth_infra::audio::host" "Host buffer complete"
        [⟨"buffer", .count p.host.buffers⟩, ⟨"offset", .count (offset + length)⟩, ⟨"len", .count length⟩]
      return (.ok (), p)

/-- The buffers from `offset` on, up to the first failure. `entries` is the log so far. -/
def buffersFrom (inputs : List (Array σ)) (frames size : Nat) (positive : 0 < size) (p : Pass φ ε σ)
    (entries : Array LogEntry) (offset : Nat) : Logged (Except AudioError Unit × Pass φ ε σ) :=
  if offset < frames then
    let length := min size (frames - offset)
    let step := p.buffer inputs offset length
    match step.value with
    | (.error error, p) => ⟨(.error error, p), (entries ++ step.entries).toList⟩
    | (.ok (), p) => buffersFrom inputs frames size positive p (entries ++ step.entries) (offset + length)
  else ⟨(.ok (), p), entries.toList⟩
termination_by frames - offset

end Pass

/-- What a run leaves: its audio, one channel of the asked length per output, and the host and the
effect after it. -/
structure Rendered (φ ε σ : Type) where
  result : Except AudioError (List (Array σ))
  host : Host φ
  effect : ε

/-- Drives an effect over `frames` frames. -/
def Host.run {φ ε σ ρ : Type} [Screen φ] [BufferEffect ε σ ρ] [Sample ρ σ] [Add ρ] [Sub ρ]
    [Mul ρ] [Div ρ] [Neg ρ] [Zero ρ] [One ρ] [NatCast ρ] [IntCast ρ] [LT ρ] [DecidableLT ρ]
    [BEq ρ] [RealNumber ρ] (h : Host φ) (effect : ε) (inputs : List (Array σ)) (frames : Nat) :
    Logged (Rendered φ ε σ) := do
  log .info "pysynth_infra::audio::host" "Starting offline render"
    [⟨"effect", .quoted (BufferEffect.name effect)⟩, ⟨"frames", .count frames⟩,
     ⟨"buffer_size", .count h.settings.bufferSize.toNat⟩, ⟨"input_channels", .count inputs.length⟩,
     ⟨"output_channels", .count h.settings.outputChannels.toNat⟩,
     ⟨"sample_rate", .real (RealNumber.shown (h.rate ρ))⟩]
  let start : Pass φ ε σ := ⟨h, effect, List.replicate h.settings.outputChannels.toNat #[]⟩
  let (result, p) ← start.buffersFrom inputs frames h.settings.bufferSize.toNat h.hasFrames #[] 0
  match result with
  | .error error => return ⟨.error error, p.host, p.effect⟩
  | .ok () =>
    log .info "pysynth_infra::audio::host" "Offline render finished"
      [⟨"effect", .quoted (BufferEffect.name p.effect)⟩, ⟨"buffers", .count p.host.buffers⟩]
    return ⟨.ok p.rendered, p.host, p.effect⟩

end BufferScope
