/-
The plotting area of a canvas: a box of pixels, the projection of data points into it, and the
clipping of segments to it.
-/
import BufferScope.Number
import BufferScope.Plot.Line

namespace BufferScope.Plot

/-- A box of pixels, its ends included. -/
structure Box where
  left : Int
  right : Int
  top : Int
  bottom : Int
  deriving DecidableEq, Repr

/-- The plotting area: from an eighth to nine tenths of the width, and from 12 to 89 hundredths of
the height. -/
def Box.ofCanvas (width height : Nat) : Box where
  left := (width / 8 : Nat)
  right := (max (9 * width / 10) 1 : Nat)
  top := (12 * height / 100 : Nat)
  bottom := (max (89 * height / 100) 1 : Nat)

/-- Whether a pixel lies in the box. -/
def Box.Has (b : Box) (p : Pixel) : Prop := (b.left ≤ p.x ∧ p.x ≤ b.right) ∧ b.top ≤ p.y ∧ p.y ≤ b.bottom

instance (b : Box) (p : Pixel) : Decidable (b.Has p) := inferInstanceAs (Decidable (_ ∧ _))

/-- A point of the plane. -/
structure Point (ρ : Type) where
  x : ρ
  y : ρ
  deriving DecidableEq, Repr

variable {ρ : Type}

/-- The nearest pixel. -/
def Point.pixel [RealNumber ρ] (p : Point ρ) : Pixel := ⟨RealNumber.round p.x, RealNumber.round p.y⟩

/-- A range of data values. -/
structure Range (ρ : Type) where
  low : ρ
  high : ρ
  deriving DecidableEq, Repr

/-- The length of a range; one that is empty or reversed counts as one. -/
def Range.span [Sub ρ] [One ρ] [LT ρ] [DecidableLT ρ] (r : Range ρ) : ρ :=
  if r.low < r.high then r.high - r.low else 1

/-- A box with the ranges of data that it shows. -/
structure Axes (ρ : Type) where
  box : Box
  xRange : Range ρ
  yRange : Range ρ

/-- The place of a data point among the pixels, not yet rounded. -/
def Axes.project [Add ρ] [Sub ρ] [Mul ρ] [Div ρ] [One ρ] [LT ρ] [DecidableLT ρ] [IntCast ρ] (a : Axes ρ)
    (x y : ρ) : Point ρ where
  x := (a.box.left : ρ) + (x - a.xRange.low) / a.xRange.span * ((a.box.right - a.box.left : Int) : ρ)
  y := (a.box.bottom : ρ) - (y - a.yRange.low) / a.yRange.span * ((a.box.bottom - a.box.top : Int) : ρ)

/-! ## Clipping -/

/-- The part of a segment between two of its parameters. -/
structure Stretch (ρ : Type) where
  low : ρ
  high : ρ
  deriving DecidableEq, Repr

/-- Cuts a stretch down to the parameters `t` with `t * slope ≤ room`. Nothing may be left. -/
def Stretch.cut [Zero ρ] [Div ρ] [LT ρ] [DecidableLT ρ] [BEq ρ] (s : Stretch ρ) (slope room : ρ) :
    Option (Stretch ρ) :=
  if slope == 0 then if room < 0 then none else some s
  else
    let t := room / slope
    if slope < 0 then
      if s.high < t then none else some { s with low := if s.low < t then t else s.low }
    else
      if t < s.low then none else some { s with high := if t < s.high then t else s.high }

variable [Add ρ] [Sub ρ] [Mul ρ] [Div ρ] [Neg ρ] [Zero ρ] [One ρ] [IntCast ρ] [LT ρ] [DecidableLT ρ] [BEq ρ]

/-- The parameters in `[0, 1]` at which the segment from `source` to `target` lies in the box. -/
def Box.stretch (b : Box) (source target : Point ρ) : Option (Stretch ρ) := do
  let dx := target.x - source.x
  let dy := target.y - source.y
  let s ← Stretch.cut ⟨0, 1⟩ (-dx) (source.x - (b.left : ρ))
  let s ← s.cut dx ((b.right : ρ) - source.x)
  let s ← s.cut (-dy) (source.y - (b.top : ρ))
  s.cut dy ((b.bottom : ρ) - source.y)

/-- The point of the segment at parameter `t`. -/
def pointAt (source target : Point ρ) (t : ρ) : Point ρ :=
  ⟨source.x + t * (target.x - source.x), source.y + t * (target.y - source.y)⟩

/-- The end pixels of the part of a segment inside the box, if any. -/
def Box.clip [RealNumber ρ] (b : Box) (source target : Point ρ) : Option (Pixel × Pixel) :=
  (b.stretch source target).map fun s =>
    ((pointAt source target s.low).pixel, (pointAt source target s.high).pixel)

end BufferScope.Plot
