/-
The layers of a picture, whatever the arithmetic does. The areas that a plot paints are described without the lists of
their pixels, and `render_layered` says which of them shows at each pixel of the canvas: white outside the box, black on
its border, and inside it the last series, else the line at height zero, else white. One more series therefore changes
no pixel but its own, inside the box.
-/
import BufferScope.Proofs.Number
import BufferScope.Proofs.Plot.Paint

namespace BufferScope.Plot

/-! ## Pixels of a box -/

/-- Whether a pixel lies in the box and not on its border. -/
def Box.Inside (b : Box) (q : Pixel) : Prop := (b.left < q.x ∧ q.x < b.right) ∧ b.top < q.y ∧ q.y < b.bottom

instance (b : Box) (q : Pixel) : Decidable (b.Inside q) := inferInstanceAs (Decidable (_ ∧ _))

theorem Box.Inside.has {b : Box} {q : Pixel} (inside : b.Inside q) : b.Has q :=
  ⟨⟨inside.1.1.le, inside.1.2.le⟩, inside.2.1.le, inside.2.2.le⟩

theorem Box.ofCanvas_ordered (width height : ℕ) :
    (Box.ofCanvas width height).left ≤ (Box.ofCanvas width height).right ∧
      (Box.ofCanvas width height).top ≤ (Box.ofCanvas width height).bottom := by
  unfold ofCanvas
  dsimp only
  omega

/-- The box begins on the canvas, and ends on it if that has two pixels each way. -/
theorem Box.Has.onCanvas {width height : ℕ} {q : Pixel} (inBox : (Box.ofCanvas width height).Has q) :
    (0 ≤ q.x ∧ 0 ≤ q.y) ∧ (2 ≤ width → 2 ≤ height → q.x < width ∧ q.y < height) := by
  unfold Has ofCanvas at inBox
  dsimp only at inBox
  omega

/-- The box of a canvas with a pixel reaches at most one pixel past it. -/
theorem Box.Has.le_size {width height : ℕ} (wide : 0 < width) (high : 0 < height) {q : Pixel}
    (inBox : (Box.ofCanvas width height).Has q) : q.x ≤ width ∧ q.y ≤ height := by
  unfold Has ofCanvas at inBox
  dsimp only at inBox
  omega

/-- On a canvas whose sides fit 32 bits, the box does too. -/
theorem Box.Has.lt_word {width height : ℕ} (wide : width < 2 ^ 32) (high : height < 2 ^ 32) {q : Pixel}
    (inBox : (Box.ofCanvas width height).Has q) : (0 ≤ q.x ∧ q.x < 2 ^ 32) ∧ 0 ≤ q.y ∧ q.y < 2 ^ 32 := by
  unfold Has ofCanvas at inBox
  dsimp only at inBox
  omega

/-- So it makes no difference if coordinates are cut to 32 bits before a pixel is painted. -/
theorem paint_eq_cut {width height : ℕ} (wide : width < 2 ^ 32) (high : height < 2 ^ 32) (color : Color)
    (pixels : List Pixel) (c : Canvas) :
    paint (Box.ofCanvas width height) color pixels c =
      pixels.foldl (fun c p => if (Box.ofCanvas width height).Has p then c.put (p.x % 2 ^ 32) (p.y % 2 ^ 32) color
        else c) c := by
  refine List.foldl_ext _ _ c fun c p _ => ?_
  split
  · next inBox =>
    obtain ⟨x, y⟩ := inBox.lt_word wide high
    rw [Int.emod_eq_of_lt x.1 x.2, Int.emod_eq_of_lt y.1 y.2]
  · rfl

theorem mem_intsBetween {low high n : ℤ} : n ∈ intsBetween low high ↔ low ≤ n ∧ n < high := by
  unfold intsBetween
  simp only [List.mem_map, List.mem_range]
  constructor
  · rintro ⟨k, less, rfl⟩
    omega
  · rintro ⟨least, less⟩
    exact ⟨(n - low).toNat, by omega, by omega⟩

/-- The frame is the border of the box. -/
theorem mem_framePixels {b : Box} (ordered : b.left ≤ b.right ∧ b.top ≤ b.bottom) {q : Pixel} :
    q ∈ framePixels b ↔ b.Has q ∧ ¬b.Inside q := by
  obtain ⟨x, y⟩ := q
  unfold framePixels Box.Has Box.Inside
  simp only [List.mem_append, List.mem_flatMap, mem_intsBetween, List.mem_cons, List.not_mem_nil, or_false,
    Pixel.mk.injEq]
  constructor
  · rintro (⟨x', across, ⟨rfl, rfl⟩ | ⟨rfl, rfl⟩⟩ | ⟨y', upward, ⟨rfl, rfl⟩ | ⟨rfl, rfl⟩⟩)
      <;> omega
  · rintro ⟨⟨across, upward⟩, edge⟩
    by_cases level : y = b.top ∨ y = b.bottom
    · exact .inl ⟨x, by omega, level.imp (⟨rfl, ·⟩) (⟨rfl, ·⟩)⟩
    · exact .inr ⟨y, by omega, by omega⟩

/-- Whether a pixel belongs to the swatch of the series with the given number: three rows at the right end of the box,
ten rows below those of the series before. -/
def Box.InSwatch (b : Box) (index : ℕ) (q : Pixel) : Prop :=
  (b.left ≤ q.x ∧ b.right - 28 ≤ q.x ∧ q.x < b.right - 8) ∧
    b.top + 8 + 10 * index ≤ q.y ∧ q.y < b.top + 11 + 10 * index

instance (b : Box) (index : ℕ) (q : Pixel) : Decidable (b.InSwatch index q) := inferInstanceAs (Decidable (_ ∧ _))

theorem mem_swatchPixels {b : Box} {index : ℕ} {q : Pixel} : q ∈ swatchPixels b index ↔ b.InSwatch index q := by
  obtain ⟨x, y⟩ := q
  unfold swatchPixels Box.InSwatch
  simp only [List.mem_flatMap, List.mem_map, mem_intsBetween, Pixel.mk.injEq]
  constructor
  · rintro ⟨y', upward, x', across, rfl, rfl⟩
    omega
  · rintro ⟨across, upward⟩
    exact ⟨y, by omega, x, by omega, rfl, rfl⟩

/-! ## Lines -/

section Lines

variable {ρ : Type} [Add ρ] [Sub ρ] [Mul ρ] [Div ρ] [Neg ρ] [Zero ρ] [One ρ] [IntCast ρ]
  [LT ρ] [DecidableLT ρ] [BEq ρ] [RealNumber ρ]

/-- Whether the line along the part of a segment inside the box has a pixel. -/
def Box.Crosses (b : Box) (source target : Point ρ) (q : Pixel) : Prop :=
  ∃ first last, b.clip source target = some (first, last) ∧ q ∈ linePixels first last

theorem mem_segmentPixels {b : Box} {source target : Point ρ} {q : Pixel} :
    q ∈ segmentPixels b source target ↔ b.Crosses source target q := by
  unfold segmentPixels Box.Crosses
  cases b.clip source target with
  | none => simp
  | some ends => simp [Prod.ext_iff]

/-- A polyline is the segments between neighbouring points. -/
theorem mem_polylinePixels {b : Box} {q : Pixel} (points : List (Option (Point ρ))) :
    q ∈ polylinePixels b points ↔
      ∃ (i : ℕ) (p p' : Point ρ), points[i]? = some (some p) ∧ points[i + 1]? = some (some p') ∧
        q ∈ segmentPixels b p p' := by
  induction points with
  | nil => simp [polylinePixels]
  | cons head rest ih =>
    -- a pair of neighbours is the first two points, or lies among the points after the first
    have split : (∃ (i : ℕ) (p p' : Point ρ), (head :: rest)[i]? = some (some p) ∧
          (head :: rest)[i + 1]? = some (some p') ∧ q ∈ segmentPixels b p p') ↔
        (∃ p p', head = some p ∧ rest[0]? = some (some p') ∧ q ∈ segmentPixels b p p') ∨
          q ∈ polylinePixels b rest := by
      rw [ih]
      constructor
      · rintro ⟨_ | i, p, p', here, next, member⟩
        · exact .inl ⟨p, p', Option.some.inj here, next, member⟩
        · exact .inr ⟨i, p, p', here, next, member⟩
      · rintro (⟨p, p', rfl, next, member⟩ | ⟨i, p, p', here, next, member⟩)
        · exact ⟨0, p, p', rfl, next, member⟩
        · exact ⟨i + 1, p, p', here, next, member⟩
    rw [split]
    rcases head with _ | p
    · simp [polylinePixels]
    · rcases rest with _ | ⟨_ | p', rest⟩
      · simp [polylinePixels]
      · simp [polylinePixels]
      · simp [polylinePixels]

/-- Whether the line at height zero has a pixel: only if the window reaches above and below it. -/
def Axes.Level (a : Axes ρ) (q : Pixel) : Prop :=
  (a.yRange.low < 0 ∧ 0 < a.yRange.high) ∧ a.box.Crosses (a.project a.xRange.low 0) (a.project a.xRange.high 0) q

theorem mem_zeroLinePixels {a : Axes ρ} {q : Pixel} : q ∈ zeroLinePixels a ↔ a.Level q := by
  unfold zeroLinePixels Axes.Level
  split
  · next reaches => rw [mem_segmentPixels, and_iff_right reaches]
  · next oneSide => simp [oneSide]

end Lines

/-! ## Series -/

section Series

variable {ρ : Type} [Add ρ] [Sub ρ] [Mul ρ] [Div ρ] [Neg ρ] [Zero ρ] [One ρ] [NatCast ρ] [IntCast ρ] [LT ρ]
  [DecidableLT ρ] [BEq ρ] [RealNumber ρ]

/-- Whether a series has two samples beside each other that are both projected to a place. -/
def Axes.Neighbours (a : Axes ρ) (values : Array ρ) (p p' : Point ρ) : Prop :=
  ∃ i : ℕ, (seriesPoints a values)[i]? = some (some p) ∧ (seriesPoints a values)[i + 1]? = some (some p')

/-- Whether a series is drawn over a pixel: by the line between two neighbouring points, as its only sample, or by its
swatch. -/
inductive Axes.Draws (a : Axes ρ) (index : ℕ) (values : Array ρ) (q : Pixel) : Prop
  | line {p p' : Point ρ} (neighbours : a.Neighbours values p p') (crosses : a.box.Crosses p p' q)
  | sample {p : Point ρ} (alone : seriesPoints a values = [some p]) (nearest : q = p.pixel)
  | swatch (inSwatch : a.box.InSwatch index q)

theorem mem_seriesPixels {a : Axes ρ} {values : Array ρ} {q : Pixel} :
    q ∈ seriesPixels a values ↔
      (∃ p p', a.Neighbours values p p' ∧ a.box.Crosses p p' q) ∨
        ∃ p : Point ρ, seriesPoints a values = [some p] ∧ q = p.pixel := by
  unfold seriesPixels
  split
  · next p alone =>
    have single : ∀ p p', ¬a.Neighbours values p p' := by
      rintro p p' ⟨i, -, next⟩
      rw [alone] at next
      cases next
    simp [alone, single]
  · next several =>
    have many : ∀ p : Point ρ, seriesPoints a values ≠ [some p] := several
    rw [mem_polylinePixels]
    simp only [many, false_and, exists_false, or_false, mem_segmentPixels]
    constructor
    · rintro ⟨i, p, p', here, next, crosses⟩
      exact ⟨p, p', ⟨i, here, next⟩, crosses⟩
    · rintro ⟨p, p', ⟨i, here, next⟩, crosses⟩
      exact ⟨i, p, p', here, next, crosses⟩

theorem covers_iff {a : Axes ρ} {index : ℕ} {values : Array ρ} {q : Pixel} :
    Covers a index values q ↔ a.Draws index values q := by
  unfold Covers
  rw [mem_seriesPixels, mem_swatchPixels]
  constructor
  · rintro ((⟨p, p', neighbours, crosses⟩ | ⟨p, alone, nearest⟩) | inSwatch)
    · exact .line neighbours crosses
    · exact .sample alone nearest
    · exact .swatch inSwatch
  · intro draws
    cases draws with
    | line neighbours crosses => exact .inl (.inl ⟨_, _, neighbours, crosses⟩)
    | sample alone nearest => exact .inl (.inr ⟨_, alone, nearest⟩)
    | swatch inSwatch => exact .inr inSwatch

omit [Neg ρ] [Zero ρ] [BEq ρ] in
@[simp] theorem length_seriesPoints (a : Axes ρ) (values : Array ρ) :
    (seriesPoints a values).length = values.size := by
  unfold seriesPoints
  rw [List.length_mapIdx, Array.length_toList]

/-- Without neighbouring points a series of more or fewer samples than one is drawn by its swatch alone. -/
theorem draws_iff_inSwatch {a : Axes ρ} {values : Array ρ} (notOne : values.size ≠ 1)
    (scattered : ∀ p p', ¬a.Neighbours values p p') (index : ℕ) (q : Pixel) :
    a.Draws index values q ↔ a.box.InSwatch index q := by
  constructor
  · intro draws
    cases draws with
    | line neighbours => exact absurd neighbours (scattered _ _)
    | sample alone =>
      have length := congrArg List.length alone
      rw [length_seriesPoints] at length
      exact absurd length notOne
    | swatch inSwatch => exact inSwatch
  · exact .swatch

end Series

/-! ## Pictures -/

section Pictures

variable {ρ : Type} [Add ρ] [Sub ρ] [Mul ρ] [Div ρ] [Neg ρ] [Zero ρ] [One ρ] [NatCast ρ] [IntCast ρ] [LT ρ]
  [DecidableLT ρ] [BEq ρ] [RealNumber ρ]

/-- A pixel has one colour. -/
theorem HasColor.unique {p : Plot ρ} {a : Axes ρ} {q : Pixel} {color color' : Color} (has : p.HasColor a q color)
    (has' : p.HasColor a q color') : color = color' := by
  cases has with
  | frame border =>
    cases has' with
    | frame => rfl
    | series _ _ inner => exact absurd border inner
    | zeroLine inner => exact absurd border inner
    | background inner => exact absurd border inner
  | series k s inner kth covers last =>
    cases has' with
    | frame border => exact absurd border inner
    | series k' s' _ kth' covers' last' =>
      obtain before | rfl | after := lt_trichotomy k k'
      · exact absurd covers' (last k' s' before kth')
      · rfl
      · exact absurd covers (last' k s after kth)
    | zeroLine _ bare => exact absurd covers (bare k s kth)
    | background _ bare => exact absurd covers (bare k s kth)
  | zeroLine inner bare level =>
    cases has' with
    | frame border => exact absurd border inner
    | series k s _ kth covers => exact absurd covers (bare k s kth)
    | zeroLine => rfl
    | background _ _ off => exact absurd level off
  | background inner bare off =>
    cases has' with
    | frame border => exact absurd border inner
    | series k s _ kth covers => exact absurd covers (bare k s kth)
    | zeroLine _ _ level => exact absurd level off
    | background => rfl

theorem get?_drawAll_outside {a : Axes ρ} {x y : ℕ} (outside : ¬a.box.Has ⟨x, y⟩) (series : List (Series ρ)) :
    ∀ (index : ℕ) (c : Canvas), (drawAll a index series c).get? x y = c.get? x y := by
  induction series with
  | nil => exact fun _ _ => rfl
  | cons s rest ih =>
    intro index c
    rw [drawAll, ih, get?_drawSeries, if_neg fun layer => outside layer.2.1]

/-- What the picture of a plot shows, pixel by pixel. -/
structure Depicts (p : Plot ρ) (a : Axes ρ) (image : Canvas) : Prop where
  outside {x y : ℕ} : image.Has x y → ¬a.box.Has ⟨x, y⟩ → image.get? x y = some background
  border {x y : ℕ} : image.Has x y → a.box.Has ⟨x, y⟩ → ¬a.box.Inside ⟨x, y⟩ →
    image.get? x y = some frameColor
  /-- The last series that is drawn over a pixel. -/
  series {x y k : ℕ} {s : Series ρ} : image.Has x y → a.box.Inside ⟨x, y⟩ → p.series[k]? = some s →
    a.Draws k s.values ⟨x, y⟩ →
    (∀ later s', k < later → p.series[later]? = some s' → ¬a.Draws later s'.values ⟨x, y⟩) →
    image.get? x y = some (seriesColor k)
  zeroLine {x y : ℕ} : image.Has x y → a.box.Inside ⟨x, y⟩ →
    (∀ k s, p.series[k]? = some s → ¬a.Draws k s.values ⟨x, y⟩) → a.Level ⟨x, y⟩ →
    image.get? x y = some zeroLineColor
  blank {x y : ℕ} : image.Has x y → a.box.Inside ⟨x, y⟩ →
    (∀ k s, p.series[k]? = some s → ¬a.Draws k s.values ⟨x, y⟩) → ¬a.Level ⟨x, y⟩ →
    image.get? x y = some background

theorem depicts_of_render {p : Plot ρ} {width height : ℕ} (wide : 0 < width) (high : 0 < height) {image : Canvas}
    (rendered : p.render width height = .ok image) : p.Depicts (p.axesOf width height) image := by
  obtain ⟨image', rendered', -, -, shows⟩ := p.exists_image wide high
  cases rendered.symm.trans rendered'
  have frame : ∀ {q : Pixel}, q ∈ framePixels (p.axesOf width height).box ↔
      (p.axesOf width height).box.Has q ∧ ¬(p.axesOf width height).box.Inside q :=
    mem_framePixels (Box.ofCanvas_ordered width height)
  have colored : ∀ {x y : ℕ} {color : Color}, image.Has x y → (p.axesOf width height).box.Has ⟨x, y⟩ →
      p.HasColor (p.axesOf width height) ⟨x, y⟩ color → image.get? x y = some color := by
    intro x y color onCanvas inBox has
    obtain ⟨color', shown, has'⟩ := shows x y onCanvas inBox
    rw [shown, has'.unique has]
  have inner : ∀ {q : Pixel}, (p.axesOf width height).box.Inside q →
      q ∉ framePixels (p.axesOf width height).box :=
    fun inside border => (frame.mp border).2 inside
  refine ⟨fun {x y} onCanvas outside => ?_, fun onCanvas inBox edge => ?_,
    fun {x y k s} onCanvas inside kth draws last => ?_,
    fun onCanvas inside bare level => ?_, fun onCanvas inside bare off => ?_⟩
  · rw [p.render_eq wide high] at rendered
    cases rendered
    rw [has_paint, has_unframed] at onCanvas
    rw [get?_paint, if_neg fun layer => outside layer.2.1]
    unfold unframed
    rw [get?_drawAll_outside outside, get?_paint, if_neg fun layer => outside layer.2.1,
      Canvas.get?_filled _ _ _ _ _ onCanvas]
  · exact colored onCanvas inBox (.frame (frame.mpr ⟨inBox, edge⟩))
  · simp only [← covers_iff] at draws last
    exact colored onCanvas inside.has (.series k s (inner inside) kth draws last)
  · simp only [← covers_iff] at bare
    exact colored onCanvas inside.has (.zeroLine (inner inside) bare (mem_zeroLinePixels.mpr level))
  · simp only [← covers_iff] at bare
    exact colored onCanvas inside.has (.background (inner inside) bare fun level => off (mem_zeroLinePixels.mp level))

/-! ## One more series -/

/-- Whether a canvas is another one with some of its pixels in a new colour. -/
def Overlaid (area : Pixel → Prop) (color : Color) (c c' : Canvas) : Prop :=
  (c'.width = c.width ∧ c'.height = c.height) ∧
    ∀ x y : ℕ, (c.Has x y → area ⟨x, y⟩ → c'.get? x y = some color) ∧
      (¬(c.Has x y ∧ area ⟨x, y⟩) → c'.get? x y = c.get? x y)

theorem Overlaid.congr {area area' : Pixel → Prop} {color : Color} {c c' : Canvas}
    (overlaid : Overlaid area color c c') (same : ∀ q, area q ↔ area' q) : Overlaid area' color c c' := by
  rw [← funext fun q => propext (same q)]
  exact overlaid

theorem drawAll_concat (a : Axes ρ) (series : List (Series ρ)) (s : Series ρ) : ∀ (index : ℕ) (c : Canvas),
    drawAll a index (series ++ [s]) c = drawSeries a (index + series.length) s.values (drawAll a index series c) := by
  induction series with
  | nil => exact fun _ _ => rfl
  | cons first rest ih =>
    intro index c
    rw [List.cons_append, drawAll, ih, drawAll, List.length_cons]
    congr 1
    omega

/-- A plot with one more series on top. -/
theorem exists_render_withSeries (p : Plot ρ) {width height : ℕ} (wide : 0 < width) (high : 0 < height)
    {image : Canvas} (rendered : p.render width height = .ok image) (label : String) (values : Array ρ) :
    ∃ image', (p.withSeries label values).render width height = .ok image' ∧
      Overlaid (fun q => (p.axesOf width height).box.Inside q ∧
        (p.axesOf width height).Draws p.series.length values q)
        (seriesColor p.series.length) image image' := by
  have rendered' := (p.withSeries label values).render_eq wide high
  have concat : (p.withSeries label values).unframed width height =
      drawSeries (p.axesOf width height) p.series.length values (p.unframed width height) :=
    (drawAll_concat ..).trans (by rw [Nat.zero_add]; rfl)
  have sameAxes : (p.withSeries label values).axesOf width height = p.axesOf width height := rfl
  rw [concat, sameAxes] at rendered'
  refine ⟨_, rendered', ?_, fun x y => ?_⟩
  · obtain ⟨width_eq, height_eq⟩ := p.size_of_render rendered
    obtain ⟨width_eq', height_eq'⟩ := size_of_render _ rendered'
    exact ⟨width_eq'.trans width_eq.symm, height_eq'.trans height_eq.symm⟩
  rw [p.render_eq wide high] at rendered
  cases rendered
  have edge := mem_framePixels (Box.ofCanvas_ordered width height) (q := ⟨x, y⟩)
  simp only [get?_paint, has_paint, has_drawSeries]
  constructor
  · rintro onCanvas ⟨inside, draws⟩
    rw [if_neg fun layer => (edge.mp layer.1).2 inside, get?_drawSeries,
      if_pos ⟨covers_iff.mpr draws, inside.has, onCanvas⟩]
  · intro apart
    -- where the frame is it covers the series, and elsewhere in the box the series is drawn or not
    split
    · rfl
    · next noFrame =>
      refine (get?_drawSeries ..).trans (if_neg ?_)
      rintro ⟨covers, inBox, onCanvas⟩
      by_cases inside : (p.axesOf width height).box.Inside ⟨x, y⟩
      · exact apart ⟨onCanvas, inside, covers_iff.mp covers⟩
      · exact noFrame ⟨edge.mpr ⟨inBox, inside⟩, inBox, onCanvas⟩

theorem drawAll_congr (a : Axes ρ) : ∀ (series series' : List (Series ρ)) (index : ℕ) (c : Canvas),
    series.map Series.values = series'.map Series.values → drawAll a index series c = drawAll a index series' c
  | [], [], _, _, _ => rfl
  | s :: rest, s' :: rest', index, c, same => by
    obtain ⟨first, others⟩ := List.cons.inj same
    rw [drawAll, drawAll, first]
    exact drawAll_congr a rest rest' _ _ others

/-- The labels of its series do not show in a picture. -/
theorem render_congr {p p' : Plot ρ} (sameX : p'.xRange = p.xRange) (sameY : p'.yRange = p.yRange)
    (sameValues : p'.series.map Series.values = p.series.map Series.values) (width height : ℕ) :
    p'.render width height = p.render width height := by
  unfold render
  simp only [sameX, sameY, drawAll_congr _ _ _ _ _ sameValues]

/-- The layers of a picture. A plot has a picture of every size with a pixel, whatever the arithmetic does. With the box
of its axes, which reaches at most one pixel past the canvas, every pixel outside the box is white and every one on its
border black. A pixel inside has the colour of the last series with a line or its swatch there, else it is grey if the
window reaches above and below zero and the line at that height is there, else white. A series that is put on top
changes pixels inside the box alone, where it is drawn, and gives them its colour; if none of its samples have finite
places beside each other, and it has not just one sample, then its swatch is all that is added. Labels make no
difference. -/
theorem render_layered (p : Plot ρ) {width height : ℕ} (wide : 0 < width) (high : 0 < height) :
    let a := p.axesOf width height
    (a.box.left ≤ a.box.right ∧ a.box.top ≤ a.box.bottom) ∧
    (∀ q, a.box.Has q → (0 ≤ q.x ∧ q.x ≤ width) ∧ 0 ≤ q.y ∧ q.y ≤ height) ∧
    ∃ image, p.render width height = .ok image ∧ (image.width = width ∧ image.height = height) ∧
      p.Depicts a image ∧
      (∀ label values, ∃ image', (p.withSeries label values).render width height = .ok image' ∧
        Overlaid (fun q => a.box.Inside q ∧ a.Draws p.series.length values q)
          (seriesColor p.series.length) image image' ∧
        (values.size ≠ 1 → (∀ place place', ¬a.Neighbours values place place') →
          Overlaid (fun q => a.box.Inside q ∧ a.box.InSwatch p.series.length q) (seriesColor p.series.length)
            image image')) ∧
      ∀ p' : Plot ρ, p'.xRange = p.xRange → p'.yRange = p.yRange →
        p'.series.map Series.values = p.series.map Series.values → p'.render width height = .ok image := by
  intro a
  have rendered := p.render_eq wide high
  refine ⟨Box.ofCanvas_ordered width height, fun q inBox => ?_, _, rendered, p.size_of_render rendered,
    depicts_of_render wide high rendered, fun label values => ?_, fun p' sameX sameY sameValues => ?_⟩
  · obtain ⟨⟨x_nonneg, y_nonneg⟩, -⟩ := inBox.onCanvas
    obtain ⟨x_le, y_le⟩ := inBox.le_size wide high
    exact ⟨⟨x_nonneg, x_le⟩, y_nonneg, y_le⟩
  · obtain ⟨image', rendered', overlaid⟩ := p.exists_render_withSeries wide high rendered label values
    refine ⟨image', rendered', overlaid, fun notOne scattered => overlaid.congr fun q => ?_⟩
    rw [draws_iff_inSwatch notOne scattered]
  · rw [render_congr sameX sameY sameValues, rendered]

end Pictures

/-- A series along the line at height zero. -/
def levelPlot : Plot ℚ := (spanning 2).withSeries "level" #[0, 0, 0]

/-- A series without samples on top of it adds a swatch. -/
theorem render_layered_level :
    0 < 40 ∧ 0 < 30 ∧ ∃ image image', levelPlot.render 40 30 = .ok image ∧
      (levelPlot.withSeries "nothing" #[]).render 40 30 = .ok image' ∧
      image.get? 2 2 = some background ∧ image.get? 5 15 = some frameColor ∧
        image.get? 20 15 = some (seriesColor 0) ∧
      image'.get? 20 15 = some (seriesColor 0) ∧ image'.get? 10 22 = some (seriesColor 1) := by
  obtain ⟨-, -, image, rendered, ⟨width, height⟩, depicts, appended, -⟩ :=
    render_layered levelPlot (show 0 < 40 by decide) (show 0 < 30 by decide)
  obtain ⟨image', rendered', -, swatch⟩ := appended "nothing" #[]
  have onCanvas : ∀ x y : ℕ, x < 40 → y < 30 → image.Has x y := fun x y _ _ =>
    ⟨⟨by omega, by omega⟩, by omega, by omega⟩
  have line : image.get? 20 15 = some (seriesColor 0) := by
    refine depicts.series (onCanvas 20 15 (by decide) (by decide)) (by decide) rfl
      (covers_iff.mp (by decide +kernel)) ?_
    rintro (_ | later) s' positive there
    · exact absurd positive (Nat.lt_irrefl 0)
    · cases there
  have scattered : ∀ place place', ¬(levelPlot.axesOf 40 30).Neighbours #[] place place' := by
    rintro place place' ⟨i, here, -⟩
    cases here
  obtain ⟨-, changes⟩ := swatch (by decide) scattered
  refine ⟨by decide, by decide, image, image', rendered, rendered', ?_, ?_, line, ?_, ?_⟩
  · exact depicts.outside (onCanvas 2 2 (by decide) (by decide)) (by decide)
  · exact depicts.border (onCanvas 5 15 (by decide) (by decide)) (by decide) (by decide)
  · exact ((changes 20 15).2 fun layer => absurd layer.2 (by decide)).trans line
  · exact (changes 10 22).1 (onCanvas 10 22 (by decide) (by decide)) (by decide)

end BufferScope.Plot
