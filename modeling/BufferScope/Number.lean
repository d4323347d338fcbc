/-
The numbers that effects work with. Buffers hold samples, and effects compute with wider reals;
both are parameters, so that one definition runs on floating point and can be read over exact
numbers. What no ring has is asked for by the classes `RealNumber`, `Circular` and `Sample`.
-/
namespace BufferScope

/-- What effects and plots need of their numbers beyond arithmetic and order. -/
class RealNumber (ρ : Type) where
  isFinite : ρ → Bool
  /-- The nearest whole number; halves go away from zero. -/
  round : ρ → Int
  /-- The number as messages and logs show it. -/
  shown : ρ → Float

/-- The circle functions, for synthesis and spectra. -/
class Circular (ρ : Type) where
  pi : ρ
  sin : ρ → ρ
  cos : ρ → ρ

/-- The samples `σ` that reals `ρ` are exchanged as: a sample widens to a real, and a real is rounded
to a sample. -/
class Sample (ρ : Type) (σ : outParam Type) where
  silence : σ
  widen : σ → ρ
  narrow : ρ → σ
  isFinite : σ → Bool
  /-- The sample as messages show it. -/
  shown : σ → Float

/-! ## Floating point -/

instance natCastFloat : NatCast Float := ⟨Float.ofNat⟩

instance intCastFloat : IntCast Float := ⟨Float.ofInt⟩

/-- Rounding to a pixel or a frame saturates at the ends of 64 bits, and a NaN counts as zero. -/
instance : RealNumber Float where
  isFinite := Float.isFinite
  round x := x.round.toInt64.toInt
  shown := id

instance : Circular Float where
  pi := 3.141592653589793
  sin := Float.sin
  cos := Float.cos

instance : Sample Float Float32 where
  silence := 0
  widen := Float32.toFloat
  narrow := Float.toFloat32
  isFinite := Float32.isFinite
  shown := Float32.toFloat

end BufferScope
