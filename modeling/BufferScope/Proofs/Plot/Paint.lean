/-
What covers what in a plot. Painting shows at the pixels that the list, the box and the canvas have in common, and
nowhere else. So a pixel inside the box is black where the frame is, else it has the colour of the last series whose
line or swatch is there, else that of the zero line or of the background (`exists_image`).
-/
import BufferScope.Plot.Basic

namespace BufferScope

@[simp] theorem Canvas.has_put (c : Canvas) (x y : Int) (color : Color) (i j : Int) :
    (c.put x y color).Has i j ↔ c.Has i j := by
  unfold Has
  rw [width_put, height_put]

theorem Canvas.get?_filled (width height : Nat) (color : Color) (x y : Nat)
    (here : (filled width height color).Has x y) :
    (filled width height color).get? x y = some color := by
  obtain ⟨⟨-, inWidth⟩, -, inHeight⟩ := here
  have inside : x < width ∧ y < height := ⟨by exact_mod_cast inWidth, by exact_mod_cast inHeight⟩
  have low : y * width + x < width * height := by
    simpa [filled] using Canvas.index_lt (c := filled width height color) inside.1 inside.2
  unfold get? filled
  rw [if_pos inside, Array.getElem?_replicate, if_pos low]

namespace Plot

/-! ## Layers -/

theorem paint_cons (b : Box) (color : Color) (p : Pixel) (rest : List Pixel) (c : Canvas) :
    paint b color (p :: rest) c = paint b color rest (if b.Has p then c.put p.x p.y color else c) := rfl

/-- Painting keeps the size of the canvas. -/
theorem size_paint (b : Box) (color : Color) (pixels : List Pixel) : ∀ c : Canvas,
    (paint b color pixels c).width = c.width ∧ (paint b color pixels c).height = c.height := by
  induction pixels with
  | nil => exact fun _ => ⟨rfl, rfl⟩
  | cons p rest ih =>
    intro c
    obtain ⟨width, height⟩ := ih (if b.Has p then c.put p.x p.y color else c)
    rw [paint_cons, width, height]
    constructor <;> split <;> simp

@[simp] theorem has_paint (b : Box) (color : Color) (pixels : List Pixel) (c : Canvas) (x y : Int) :
    (paint b color pixels c).Has x y ↔ c.Has x y := by
  unfold Canvas.Has
  rw [(size_paint ..).1, (size_paint ..).2]

/-- Painting shows at the pixels that the list, the box and the canvas have, and nowhere else. -/
theorem get?_paint (b : Box) (color : Color) (pixels : List Pixel) (x y : Nat) : ∀ c : Canvas,
    (paint b color pixels c).get? x y =
      if (⟨x, y⟩ : Pixel) ∈ pixels ∧ b.Has ⟨x, y⟩ ∧ c.Has x y then some color else c.get? x y := by
  induction pixels with
  | nil => simp [paint]
  | cons p rest ih =>
    intro c
    have place : p.x = x ∧ p.y = y ↔ ⟨x, y⟩ = p := by
      obtain ⟨px, py⟩ := p
      rw [Pixel.mk.injEq]
      exact and_congr eq_comm eq_comm
    rw [paint_cons, ih]
    by_cases inBox : b.Has p
    · simp only [if_pos inBox, Canvas.get?_put, Canvas.has_put, place]
      by_cases here : (⟨x, y⟩ : Pixel) = p
      · subst here
        by_cases onCanvas : c.Has x y <;> simp [inBox, onCanvas]
      · simp [here]
    · rw [if_neg inBox]
      by_cases here : (⟨x, y⟩ : Pixel) = p
      · subst here
        simp [inBox]
      · simp [here]

/-! ## Series -/

variable {ρ : Type} [Add ρ] [Sub ρ] [Mul ρ] [Div ρ] [Neg ρ] [Zero ρ] [One ρ] [NatCast ρ] [IntCast ρ] [LT ρ]
  [DecidableLT ρ] [BEq ρ] [RealNumber ρ]

/-- Whether the line or the swatch of the series with the given number is at a pixel. -/
def Covers (a : Axes ρ) (index : Nat) (values : Array ρ) (p : Pixel) : Prop :=
  p ∈ seriesPixels a values ∨ p ∈ swatchPixels a.box index

instance (a : Axes ρ) (index : Nat) (values : Array ρ) (p : Pixel) : Decidable (Covers a index values p) :=
  inferInstanceAs (Decidable (_ ∨ _))

@[simp] theorem has_drawSeries (a : Axes ρ) (index : Nat) (values : Array ρ) (c : Canvas) (x y : Int) :
    (drawSeries a index values c).Has x y ↔ c.Has x y := by
  unfold drawSeries
  rw [has_paint, has_paint]

/-- A series shows where its line or its swatch is in the box, and nowhere else. -/
theorem get?_drawSeries (a : Axes ρ) (index : Nat) (values : Array ρ) (c : Canvas) (x y : Nat) :
    (drawSeries a index values c).get? x y =
      if Covers a index values ⟨x, y⟩ ∧ a.box.Has ⟨x, y⟩ ∧
        c.Has x y then some (seriesColor index) else c.get? x y := by
  have covers : Covers a index values ⟨x, y⟩ ↔
      (⟨x, y⟩ : Pixel) ∈ seriesPixels a values ∨ (⟨x, y⟩ : Pixel) ∈ swatchPixels a.box index := Iff.rfl
  unfold drawSeries
  simp only [get?_paint, has_paint, covers]
  by_cases swatch : (⟨x, y⟩ : Pixel) ∈ swatchPixels a.box index
  · by_cases layer : a.box.Has ⟨x, y⟩ ∧ c.Has x y
    · simp only [swatch, layer, and_self, or_true, if_true]
    · simp only [layer, and_false, if_false]
  · simp only [swatch, false_and, if_false, or_false]

/-- Where no series is drawn a canvas stays as it was; elsewhere it has the colour of the last one that is. -/
theorem drawAll_cases {a : Axes ρ} {x y : Nat} (inBox : a.box.Has ⟨x, y⟩) (series : List (Series ρ)) :
    ∀ (index : Nat) (c : Canvas), c.Has x y →
      ((∀ k s, series[k]? = some s → ¬Covers a (index + k) s.values ⟨x, y⟩) ∧
        (drawAll a index series c).get? x y = c.get? x y) ∨
      ∃ k s, series[k]? = some s ∧ Covers a (index + k) s.values ⟨x, y⟩ ∧
        (∀ later s', k < later → series[later]? = some s' → ¬Covers a (index + later) s'.values ⟨x, y⟩) ∧
        (drawAll a index series c).get? x y = some (seriesColor (index + k)) := by
  induction series with
  | nil => exact fun _ _ _ => .inl ⟨fun k s none => (nomatch none), rfl⟩
  | cons first rest ih =>
    intro index c onCanvas
    have shift : ∀ k, index + 1 + k = index + (k + 1) := fun k => by omega
    have drawn := ih (index + 1) (drawSeries a index first.values c) ((has_drawSeries ..).mpr onCanvas)
    simp only [shift] at drawn
    obtain ⟨bare, kept⟩ | ⟨k, s, kth, covers, last, shown⟩ := drawn
    · by_cases covers : Covers a index first.values ⟨x, y⟩
      · have shown := (get?_drawSeries a index first.values c x y).trans (if_pos ⟨covers, inBox, onCanvas⟩)
        refine .inr ⟨0, first, rfl, covers, ?_, kept.trans shown⟩
        rintro (_ | later) s' positive there
        · exact absurd positive (Nat.lt_irrefl 0)
        · exact bare later s' there
      · have passed := (get?_drawSeries a index first.values c x y).trans (if_neg fun layer => covers layer.1)
        refine .inl ⟨?_, kept.trans passed⟩
        rintro (_ | k) s there
        · cases there
          exact covers
        · exact bare k s there
    · refine .inr ⟨k + 1, s, kth, covers, ?_, shown⟩
      rintro (_ | later) s' after there
      · exact absurd after (Nat.not_lt_zero _)
      · exact last later s' (Nat.lt_of_succ_lt_succ after) there

theorem size_drawAll (a : Axes ρ) (series : List (Series ρ)) : ∀ (index : Nat) (c : Canvas),
    (drawAll a index series c).width = c.width ∧ (drawAll a index series c).height = c.height := by
  induction series with
  | nil => exact fun _ _ => ⟨rfl, rfl⟩
  | cons first rest ih =>
    intro index c
    obtain ⟨width, height⟩ := ih (index + 1) (drawSeries a index first.values c)
    refine ⟨width.trans ?_, height.trans ?_⟩ <;> unfold drawSeries
    · rw [(size_paint ..).1, (size_paint ..).1]
    · rw [(size_paint ..).2, (size_paint ..).2]

@[simp] theorem has_drawAll (a : Axes ρ) (series : List (Series ρ)) (index : Nat) (c : Canvas) (x y : Int) :
    (drawAll a index series c).Has x y ↔ c.Has x y := by
  unfold Canvas.Has
  rw [(size_drawAll ..).1, (size_drawAll ..).2]

/-! ## The picture -/

/-- The axes of a picture. -/
def axesOf (p : Plot ρ) (width height : Nat) : Axes ρ := ⟨Box.ofCanvas width height, p.xRange, p.yRange⟩

/-- The colour that a plot gives to a pixel inside the box: black on the frame, else that of the last series whose line
or swatch is there, else grey on the line at height zero, else white. -/
inductive HasColor (p : Plot ρ) (a : Axes ρ) (q : Pixel) : Color → Prop
  | frame (border : q ∈ framePixels a.box) : HasColor p a q frameColor
  | series (k : Nat) (s : Series ρ) (inner : q ∉ framePixels a.box) (kth : p.series[k]? = some s)
      (covers : Covers a k s.values q)
      (last : ∀ later s', k < later → p.series[later]? = some s' → ¬Covers a later s'.values q) :
      HasColor p a q (seriesColor k)
  | zeroLine (inner : q ∉ framePixels a.box) (bare : ∀ k s, p.series[k]? = some s → ¬Covers a k s.values q)
      (level : q ∈ zeroLinePixels a) : HasColor p a q zeroLineColor
  | background (inner : q ∉ framePixels a.box) (bare : ∀ k s, p.series[k]? = some s → ¬Covers a k s.values q)
      (off : q ∉ zeroLinePixels a) : HasColor p a q background

/-- The picture of a plot before its frame is drawn. -/
def unframed (p : Plot ρ) (width height : Nat) : Canvas :=
  let a := p.axesOf width height
  drawAll a 0 p.series (paint a.box zeroLineColor (zeroLinePixels a) (.filled width height background))

@[simp] theorem has_unframed (p : Plot ρ) (width height : Nat) (x y : Int) :
    (p.unframed width height).Has x y ↔ (Canvas.filled width height background).Has x y := by
  unfold unframed
  rw [has_drawAll, has_paint]

/-- A plot has a picture of every size with a pixel, and its frame lies over all else. -/
theorem render_eq (p : Plot ρ) {width height : Nat} (wide : 0 < width) (high : 0 < height) :
    p.render width height = .ok (paint (p.axesOf width height).box frameColor
      (framePixels (p.axesOf width height).box) (p.unframed width height)) := by
  have sized : ¬(width = 0 ∨ height = 0) := by omega
  exact if_neg sized

theorem size_of_render (p : Plot ρ) {width height : Nat} {image : Canvas}
    (rendered : p.render width height = .ok image) :
    image.width = width ∧ image.height = height := by
  unfold render at rendered
  split at rendered
  · cases rendered
  · cases rendered
    rw [(size_paint ..).1, (size_drawAll ..).1, (size_paint ..).1, (size_paint ..).2, (size_drawAll ..).2,
      (size_paint ..).2]
    exact ⟨rfl, rfl⟩

/-- A plot has a picture of every size with a pixel, which shows what covers what. -/
theorem exists_image (p : Plot ρ) {width height : Nat} (wide : 0 < width) (high : 0 < height) :
    ∃ image, p.render width height = .ok image ∧ image.width = width ∧ image.height = height ∧
      ∀ x y : Nat, image.Has x y → (p.axesOf width height).box.Has ⟨x, y⟩ →
        ∃ color, image.get? x y = some color ∧ p.HasColor (p.axesOf width height) ⟨x, y⟩ color := by
  have rendered := p.render_eq wide high
  obtain ⟨sameWidth, sameHeight⟩ := p.size_of_render rendered
  refine ⟨_, rendered, sameWidth, sameHeight, fun x y onCanvas inBox => ?_⟩
  rw [has_paint] at onCanvas
  rw [get?_paint]
  by_cases border : (⟨x, y⟩ : Pixel) ∈ framePixels (p.axesOf width height).box
  · exact ⟨frameColor, if_pos ⟨border, inBox, onCanvas⟩, .frame border⟩
  rw [if_neg fun layer => border layer.1]
  rw [has_unframed] at onCanvas
  obtain ⟨bare, kept⟩ | ⟨k, s, kth, covers, last, shown⟩ :=
    drawAll_cases inBox p.series 0 _ ((has_paint ..).mpr onCanvas)
  · simp only [Nat.zero_add] at bare
    rw [get?_paint, Canvas.get?_filled _ _ _ _ _ onCanvas] at kept
    by_cases level : (⟨x, y⟩ : Pixel) ∈ zeroLinePixels (p.axesOf width height)
    · exact ⟨zeroLineColor, kept.trans (if_pos ⟨level, inBox, onCanvas⟩), .zeroLine border bare level⟩
    · exact ⟨background, kept.trans (if_neg fun layer => level layer.1), .background border bare level⟩
  · simp only [Nat.zero_add] at covers last shown
    exact ⟨seriesColor k, shown, .series k s border kth covers last⟩

end Plot

end BufferScope
