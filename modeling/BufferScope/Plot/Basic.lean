/-
Line plots drawn on a canvas: a window of data, series plotted against the index of their samples,
clipped to the axes, and a swatch of colour per series in the top right corner. What is drawn later
covers what was drawn before.
-/
import BufferScope.Audio.Error
import BufferScope.Canvas
import BufferScope.Plot.Axes

namespace BufferScope

/-- A named line. -/
structure Series (ρ : Type) where
  label : String
  values : Array ρ

/-- Line series over a window of data. -/
structure Plot (ρ : Type) where
  xRange : Plot.Range ρ
  yRange : Plot.Range ρ
  series : List (Series ρ) := []

namespace Plot

/-- The colours of the series, in turn. -/
def palette : Vector Color 4 := #v[⟨31, 119, 180⟩, ⟨255, 127, 14⟩, ⟨44, 160, 44⟩, ⟨214, 39, 40⟩]

/-- The colour of the series with the given number. -/
def seriesColor (index : Nat) : Color :=
  have := Nat.mod_lt index (show 0 < 4 by decide)
  palette[index % 4]

def background : Color := ⟨255, 255, 255⟩

def frameColor : Color := ⟨0, 0, 0⟩

def zeroLineColor : Color := ⟨200, 200, 200⟩

variable {ρ : Type}

/-- A plot without series that spans `[0, xMax]` across and `[-1, 1]` upwards. -/
def spanning [Zero ρ] [One ρ] [Neg ρ] (xMax : ρ) : Plot ρ where
  xRange := ⟨0, xMax⟩
  yRange := ⟨-1, 1⟩

/-- Adds a series on top. -/
def withSeries (p : Plot ρ) (label : String) (values : Array ρ) : Plot ρ :=
  { p with series := p.series ++ [⟨label, values⟩] }

/-! ## Drawing -/

/-- Paints a list of pixels as far as the box and the canvas have them. -/
def paint (b : Box) (color : Color) (pixels : List Pixel) (c : Canvas) : Canvas :=
  pixels.foldl (fun c p => if b.Has p then c.put p.x p.y color else c) c

section Lines

variable [Add ρ] [Sub ρ] [Mul ρ] [Div ρ] [Neg ρ] [Zero ρ] [One ρ] [IntCast ρ] [LT ρ] [DecidableLT ρ] [BEq ρ]
  [RealNumber ρ]

/-- The pixels of the part of a segment inside the box. -/
def segmentPixels (b : Box) (source target : Point ρ) : List Pixel :=
  match b.clip source target with
  | none => []
  | some (first, last) => linePixels first last

/-- The projected samples of a series; a sample that is not finite leaves a gap. -/
def seriesPoints [NatCast ρ] (a : Axes ρ) (values : Array ρ) : List (Option (Point ρ)) :=
  values.toList.mapIdx fun i v =>
    let p := a.project (i : ρ) v
    if RealNumber.isFinite p.x && RealNumber.isFinite p.y then some p else none

/-- The pixels of the segments between neighbouring points. -/
def polylinePixels (b : Box) : List (Option (Point ρ)) → List Pixel
  | some p :: some q :: rest => segmentPixels b p q ++ polylinePixels b (some q :: rest)
  | _ :: rest => polylinePixels b rest
  | [] => []

/-- The pixels of a series: its polyline, or the single sample it has. -/
def seriesPixels [NatCast ρ] (a : Axes ρ) (values : Array ρ) : List Pixel :=
  match seriesPoints a values with
  | [some p] => [p.pixel]
  | points => polylinePixels a.box points

/-- The pixels of the line at height zero, when the window reaches above and below it. -/
def zeroLinePixels (a : Axes ρ) : List Pixel :=
  if a.yRange.low < 0 ∧ 0 < a.yRange.high then
    segmentPixels a.box (a.project a.xRange.low 0) (a.project a.xRange.high 0)
  else []

end Lines

/-- The whole numbers from `low` up to, but not including, `high`. -/
def intsBetween (low high : Int) : List Int :=
  (List.range (high - low).toNat).map fun k : Nat => low + k

/-- The swatch of a series: three rows of up to twenty pixels, ten rows below the one before. -/
def swatchPixels (b : Box) (index : Nat) : List Pixel :=
  let right := b.right - 8
  let left := max (right - 20) b.left
  let top := b.top + 8 + 10 * (index : Int)
  (intsBetween top (top + 3)).flatMap fun y => (intsBetween left right).map fun x => ⟨x, y⟩

/-- The border of the box. -/
def framePixels (b : Box) : List Pixel :=
  (intsBetween b.left (b.right + 1)).flatMap (fun x => [⟨x, b.top⟩, ⟨x, b.bottom⟩])
    ++ (intsBetween b.top (b.bottom + 1)).flatMap fun y => [⟨b.left, y⟩, ⟨b.right, y⟩]

variable [Add ρ] [Sub ρ] [Mul ρ] [Div ρ] [Neg ρ] [Zero ρ] [One ρ] [NatCast ρ] [IntCast ρ]
  [LT ρ] [DecidableLT ρ] [BEq ρ] [RealNumber ρ]

/-- Draws the series with the given number and its swatch. -/
def drawSeries (a : Axes ρ) (index : Nat) (values : Array ρ) (c : Canvas) : Canvas :=
  paint a.box (seriesColor index) (swatchPixels a.box index)
    (paint a.box (seriesColor index) (seriesPixels a values) c)

/-- Draws the series from number `index` on, in order. -/
def drawAll (a : Axes ρ) : Nat → List (Series ρ) → Canvas → Canvas
  | _, [], c => c
  | index, s :: rest, c => drawAll a (index + 1) rest (drawSeries a index s.values c)

/-- The plot as a picture of the given size. -/
def render (p : Plot ρ) (width height : Nat) : Except RenderError Canvas :=
  if width = 0 ∨ height = 0 then .error (.emptyCanvas width height)
  else
    let a : Axes ρ := ⟨Box.ofCanvas width height, p.xRange, p.yRange⟩
    let c := Canvas.filled width height background
    let c := paint a.box zeroLineColor (zeroLinePixels a) c
    let c := drawAll a 0 p.series c
    .ok (paint a.box frameColor (framePixels a.box) c)

end Plot

end BufferScope
