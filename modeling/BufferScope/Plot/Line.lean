/-
The pixels of a straight line between two pixels, by the integer error term that keeps every pixel
within half a pixel of the true line.
-/
namespace BufferScope.Plot

/-- A place on the pixel grid. -/
structure Pixel where
  x : Int
  y : Int
  deriving DecidableEq, Repr

/-- A line under way: the target, the extents and step signs, and the error that decides which
coordinates move next. -/
structure LineWalk where
  target : Pixel
  /-- The extent along `x`. -/
  width : Int
  /-- The extent along `y`, negated. -/
  rise : Int
  stepX : Int
  stepY : Int
  place : Pixel
  error : Int
  deriving DecidableEq, Repr

namespace LineWalk

/-- A walk at its start. -/
def start (source target : Pixel) : LineWalk where
  target
  width := (target.x - source.x).natAbs
  rise := -(target.y - source.y).natAbs
  stepX := if source.x < target.x then 1 else -1
  stepY := if source.y < target.y then 1 else -1
  place := source
  error := (target.x - source.x).natAbs - (target.y - source.y).natAbs

/-- One move: each coordinate moves when the doubled error allows it. -/
def step (w : LineWalk) : LineWalk :=
  let moveX := w.rise ≤ 2 * w.error
  let moveY := 2 * w.error ≤ w.width
  { w with
    place := ⟨if moveX then w.place.x + w.stepX else w.place.x, if moveY then w.place.y + w.stepY else w.place.y⟩
    error := w.error + (if moveX then w.rise else 0) + (if moveY then w.width else 0) }

/-- The pixels visited from here on, until the target or the given number of moves. -/
def visited (w : LineWalk) : Nat → List Pixel
  | 0 => [w.place]
  | moves + 1 => if w.place = w.target then [w.place] else w.place :: w.step.visited moves

end LineWalk

/-- The larger extent of a line, which is the number of moves it takes. -/
def lineMoves (source target : Pixel) : Nat :=
  max (target.x - source.x).natAbs (target.y - source.y).natAbs

/-- The pixels of the line from `source` to `target`, in drawing order. -/
def linePixels (source target : Pixel) : List Pixel :=
  (LineWalk.start source target).visited (lineMoves source target)

end BufferScope.Plot
