/-
How a signal goes on past its edges. `sampleAt` reads the extended signal at any whole index,
however far outside.
-/
import BufferScope.Audio.Error

namespace BufferScope.Wavelet

/-- How a signal is extended past its edges during decomposition. -/
inductive Extension where
  /-- Along the line through the two outermost samples. -/
  | smooth
  /-- By zeros. -/
  | zero
  /-- By the edge sample. -/
  | constant
  /-- By its mirror image, with the edge sample repeated. -/
  | symmetric
  deriving DecidableEq, Repr

namespace Extension

variable {ρ : Type} [Add ρ] [Sub ρ] [Mul ρ] [Zero ρ] [NatCast ρ]

/-- The extended signal at `index`. -/
def sampleAt (mode : Extension) (signal : Array ρ) (nonempty : 0 < signal.size) (index : Int) : ρ :=
  let n := signal.size
  if inside : 0 ≤ index ∧ index < n then signal[index.toNat]
  else match mode with
    | .zero => 0
    | .constant => if index < 0 then signal[0] else signal[n - 1]
    | .smooth =>
      if single : n = 1 then signal[0]
      else if index < 0 then signal[0] + ((-index).toNat : ρ) * (signal[0] - signal[1])
      else signal[n - 1] + ((index - (n - 1 : Nat)).toNat : ρ) * (signal[n - 1] - signal[n - 2])
    | .symmetric =>
      let phase := (index % (2 * n : Nat)).toNat
      if early : phase < n then signal[phase]
      else
        have : 2 * n - 1 - phase < n := by omega
        signal[2 * n - 1 - phase]

end Extension

/-- The name of an extension mode. -/
def Extension.name : Extension → String
  | .smooth => "smooth"
  | .zero => "zero"
  | .constant => "constant"
  | .symmetric => "symmetric"

/-- The mode that a name or its short form stands for. Letter case does not matter. -/
def Extension.named (name : String) : Except ConfigurationError Extension :=
  match name.toLower with
  | "smooth" => .ok .smooth
  | "zero" | "zpd" => .ok .zero
  | "constant" | "sp0" => .ok .constant
  | "symmetric" | "sym" => .ok .symmetric
  | other => .error (.unknownExtension other)

end BufferScope.Wavelet
