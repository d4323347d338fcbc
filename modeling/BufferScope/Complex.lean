/-
Complex numbers over any kind of real, and the points that divide the unit circle evenly.
-/
import BufferScope.Number

namespace BufferScope

structure Complex (ρ : Type) where
  re : ρ
  im : ρ
  deriving DecidableEq, Repr

namespace Complex

variable {ρ : Type}

instance [Zero ρ] : Zero (Complex ρ) := ⟨⟨0, 0⟩⟩

instance [Add ρ] : Add (Complex ρ) := ⟨fun z w => ⟨z.re + w.re, z.im + w.im⟩⟩

instance [Add ρ] [Sub ρ] [Mul ρ] : Mul (Complex ρ) :=
  ⟨fun z w => ⟨z.re * w.re - z.im * w.im, z.re * w.im + z.im * w.re⟩⟩

def ofReal [Zero ρ] (x : ρ) : Complex ρ := ⟨x, 0⟩

/-- Multiplies by a real. -/
def scale [Mul ρ] (z : Complex ρ) (x : ρ) : Complex ρ := ⟨z.re * x, z.im * x⟩

/-- A quarter turn: multiplies by the imaginary unit. -/
def quarterTurn [Neg ρ] (z : Complex ρ) : Complex ρ := ⟨-z.im, z.re⟩

/-- Quarter turns: multiplies by a power of the imaginary unit, without a product. -/
def quarterTurns [Neg ρ] (z : Complex ρ) : Nat → Complex ρ
  | 0 => z
  | count + 1 => (z.quarterTurns count).quarterTurn

variable [Add ρ] [Sub ρ] [Mul ρ] [Div ρ] [Neg ρ] [NatCast ρ] [Circular ρ]

/-- The point at `num / den` of a quarter turn, for `num < den`. Beyond an eighth of a turn it is
the mirror image of a point before it, so no angle above `π/4` is computed. -/
def inQuarter (num den : Nat) : Complex ρ :=
  let angle (k : Nat) : ρ := Circular.pi * (k : ρ) / ((2 * den : Nat) : ρ)
  if 2 * num ≤ den then ⟨Circular.cos (angle num), Circular.sin (angle num)⟩
  else ⟨Circular.sin (angle (den - num)), Circular.cos (angle (den - num))⟩

/-- The point at `k / n` of the unit circle, counterclockwise from `1`: the `k`-th power of a
primitive `n`-th root of one. -/
def onCircle (n k : Nat) : Complex ρ :=
  let quarters := 4 * (k % n)
  (inQuarter (quarters % n) n : Complex ρ).quarterTurns (quarters / n)

end Complex

end BufferScope
