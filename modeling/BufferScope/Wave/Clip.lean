/-
Sound as planar channels, and its layout in a file as frames: the samples of all channels at one
moment, then those at the next.
-/
namespace BufferScope.Wave

/-- Recorded sound: one array of samples per channel. -/
structure Clip where
  sampleRate : UInt32
  channels : List (Array Float32)

variable {α : Type}

/-- The length of the longest channel. -/
def longest (channels : List (Array α)) : Nat := channels.foldl (fun most c => max most c.size) 0

/-- The samples of all channels, frame by frame. -/
def interleave (channels : List (Array α)) (frames : Nat) : List α :=
  (List.range frames).flatMap fun k => channels.filterMap (·[k]?)

/-- Splits samples that lie frame by frame into channels. -/
def deinterleave (channels : Nat) (samples : Array α) : List (Array α) :=
  List.ofFn fun c : Fin channels => Array.ofFn fun k : Fin (samples.size / channels) =>
    have inside : k.val * channels + c.val < samples.size :=
      calc k.val * channels + c.val < (k.val + 1) * channels := by
            have := c.isLt
            rw [Nat.add_mul]
            omega
        _ ≤ samples.size / channels * channels := Nat.mul_le_mul_right _ k.isLt
        _ ≤ samples.size := Nat.div_mul_le_self ..
    samples[k.val * channels + c.val]

end BufferScope.Wave
