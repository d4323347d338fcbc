/-
The buffers that a host hands to an effect: checks of what came in, and the copy of one signal to
every output channel. A channel keeps the length the host gave it.
-/
import BufferScope.Audio.Error
import BufferScope.Log
import BufferScope.Number

namespace BufferScope.Audio

variable {σ ρ : Type}

/-- The first input channel, which must hold a sample. -/
def firstInput (inputs : List (Array σ)) : Except AudioError (Array σ) :=
  match inputs with
  | [] => .error (.input .noInputChannels)
  | channel :: _ => if channel.isEmpty then .error (.input .emptyInput) else .ok channel

/-- The length of the first output channel. -/
def firstOutputLength (outputs : List (Array σ)) : Except AudioError Nat :=
  match outputs with
  | [] => .error (.input .noOutputChannels)
  | channel :: _ => .ok channel.size

/-- Refuses samples that are NaN or infinite, naming the first. -/
def ensureFinite (ρ : Type) [Sample ρ σ] (samples : Array σ) : Except AudioError Unit :=
  match found : samples.findIdx? fun s => !Sample.isFinite ρ s with
  | none => .ok ()
  | some i =>
    have inside : i < samples.size := (Array.findIdx?_eq_some_iff_getElem.mp found).1
    .error (.transform (.nonFinite (Sample.shown ρ samples[i]) i))

/-- The input that a transforming effect works on: channel 0, with finite samples only. -/
def acceptedInput (ρ : Type) [Sample ρ σ] (inputs : List (Array σ)) : Except AudioError (Array σ) := do
  let input ← firstInput inputs
  ensureFinite ρ input
  return input

/-- A sample rate must be finite and positive. -/
def ensureSampleRate [Zero ρ] [LT ρ] [DecidableLT ρ] [RealNumber ρ] (rate : ρ) : Except AudioError Unit :=
  if RealNumber.isFinite rate && decide (0 < rate) then .ok ()
  else .error (.configuration (.sampleRate (RealNumber.shown rate)))

/-- A channel of the given length that holds the signal, cut or followed by silence. -/
def aligned [Sample ρ σ] (signal : Array ρ) (length : Nat) : Array σ :=
  Array.ofFn fun k : Fin length => if h : k.val < signal.size then Sample.narrow signal[k.val] else Sample.silence ρ

/-- Notes a channel whose length differs from the signal's. -/
def noteAlignment (signalLength index channelLength : Nat) : Logged Unit := do
  if channelLength ≠ signalLength then
    log .debug "pysynth_core::domain::audio" "Aligning signal to output length"
      [⟨"channel", .count index⟩, ⟨"signal_len", .count signalLength⟩,
        ⟨"channel_len", .count channelLength⟩]

/-- Copies the signal to the channels from number `index` on. -/
def fanOutFrom [Sample ρ σ] (signal : Array ρ) (index : Nat) : List (Array σ) → Logged (List (Array σ))
  | [] => return []
  | channel :: rest => do
    noteAlignment signal.size index channel.size
    let filled := aligned signal channel.size
    return filled :: (← fanOutFrom signal (index + 1) rest)

/-- Copies the signal to every output channel. -/
def fanOut [Sample ρ σ] (outputs : List (Array σ)) (signal : Array ρ) : Logged (List (Array σ)) :=
  fanOutFrom signal 0 outputs

end BufferScope.Audio
