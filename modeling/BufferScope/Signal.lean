/-
Test signals in single precision, and how far two signals are apart.
-/
namespace BufferScope.Signal

/-- The single-precision number nearest to the ratio of a circle's circumference to its diameter. -/
def pi : Float32 := 3.1415927

/-- A sine of `length` samples. The phase is computed from left to right. -/
def sine (frequency : Float32) (rate length : Nat) (amplitude : Float32) : Array Float32 :=
  Array.ofFn fun i : Fin length =>
    amplitude * (2 * pi * frequency * Float32.ofNat i.val / Float32.ofNat rate).sin

/-- A one followed by zeros. -/
def impulse (length : Nat) : Array Float32 := Array.ofFn fun i : Fin length => if i.val = 0 then 1 else 0

/-- The larger of a number and another that may be NaN, which does not count. -/
def larger (most x : Float32) : Float32 := if most < x then x else most

/-- The largest distance between samples at the same place, as far as both signals go. A distance
that is NaN does not count. -/
def maxDistance (a b : Array Float32) : Float32 :=
  (a.zip b).foldl (fun most (x, y) => larger most (x - y).abs) 0

end BufferScope.Signal
