/-
Samples on a plot, read exactly. A sample inside the window is projected into the box, its pixel is an end of a line or
the one pixel of its series, and only what is drawn later covers it: `render_shows` says that no sample inside
the window is lost, wherever its neighbours are.
-/
import BufferScope.Proofs.Plot.Clip
import BufferScope.Proofs.Plot.Layers

namespace BufferScope.Plot

/-! ## Projection -/

section Projection

variable {K : Type} [Field K] [LinearOrder K] [IsStrictOrderedRing K]

theorem Range.fraction_bounds {r : Range K} (proper : r.low < r.high) {x : K} (above : r.low ≤ x)
    (below : x ≤ r.high) :
    0 ≤ (x - r.low) / r.span ∧ (x - r.low) / r.span ≤ 1 := by
  unfold span
  rw [if_pos proper]
  have positive := sub_pos.mpr proper
  exact ⟨div_nonneg (sub_nonneg.mpr above) positive.le, (div_le_one positive).mpr (sub_le_sub_right below _)⟩

/-- What lies in the window is projected into the box. -/
theorem Axes.holds_project {a : Axes K} (ordered : a.box.left ≤ a.box.right ∧ a.box.top ≤ a.box.bottom)
    (across : a.xRange.low < a.xRange.high) (upward : a.yRange.low < a.yRange.high) {x y : K}
    (inX : a.xRange.low ≤ x ∧ x ≤ a.xRange.high) (inY : a.yRange.low ≤ y ∧ y ≤ a.yRange.high) :
    a.box.Holds (a.project x y) := by
  obtain ⟨x_nonneg, x_le_one⟩ := Range.fraction_bounds across inX.1 inX.2
  obtain ⟨y_nonneg, y_le_one⟩ := Range.fraction_bounds upward inY.1 inY.2
  have wide : (0 : K) ≤ ((a.box.right - a.box.left : ℤ) : K) := by exact_mod_cast sub_nonneg.mpr ordered.1
  have high : (0 : K) ≤ ((a.box.bottom - a.box.top : ℤ) : K) := by exact_mod_cast sub_nonneg.mpr ordered.2
  have x_share := mul_le_of_le_one_left wide x_le_one
  have y_share := mul_le_of_le_one_left high y_le_one
  have x_more := mul_nonneg x_nonneg wide
  have y_more := mul_nonneg y_nonneg high
  push_cast at x_share y_share x_more y_more
  unfold Box.Holds project
  push_cast
  refine ⟨⟨?_, ?_⟩, ?_, ?_⟩ <;> linarith

end Projection

/-! ## The lines of a series -/

section Lines

variable {K : Type} [Field K] [LinearOrder K] [BEq K] [RealNumber K]

/-- An end of a segment that lies in the box is one of its pixels, wherever the other end is. -/
theorem pixel_mem_segmentPixels [IsStrictOrderedRing K] [LawfulBEq K] (b : Box) (source target : Point K) :
    (b.Holds source → source.pixel ∈ segmentPixels b source target) ∧
      (b.Holds target → target.pixel ∈ segmentPixels b source target) := by
  obtain ⟨stretch, nothing⟩ | ⟨s, stretch, least, greatest⟩ := b.stretch_cases source target
  · have outside := Set.eq_empty_iff_forall_notMem.mp nothing
    refine ⟨fun holds => absurd ?_ (outside 0), fun holds => absurd ?_ (outside 1)⟩
    · exact ⟨⟨le_rfl, zero_le_one⟩, by rwa [pointAt_zero]⟩
    · exact ⟨⟨zero_le_one, le_rfl⟩, by rwa [pointAt_one]⟩
  · have clipped : b.clip source target = some _ := congrArg (Option.map _) stretch
    rw [segmentPixels_of_clip clipped]
    refine ⟨fun holds => ?_, fun holds => ?_⟩
    · rw [pointAt_least least holds]
      exact List.mem_of_head? (head?_linePixels ..)
    · rw [pointAt_greatest greatest holds]
      exact List.mem_of_getLast? (getLast?_linePixels ..)

end Lines

variable {K : Type} [Field K] [LinearOrder K] [FloorRing K] [RealNumber K] [ExactNumber K]

theorem seriesPoints_eq (a : Axes K) (values : Array K) :
    seriesPoints a values = values.toList.mapIdx fun i v => some (a.project (i : K) v) := by
  unfold seriesPoints
  simp only [ExactNumber.isFinite_eq, Bool.and_self, if_true]

variable [IsStrictOrderedRing K] [BEq K] [LawfulBEq K]

/-- A sample that is projected into the box has its pixel among those of the series: as an end of the segment to the
next sample or from the one before, or alone. -/
theorem pixel_mem_seriesPixels {a : Axes K} {values : Array K} {i : ℕ} {v : K} (ith : values[i]? = some v)
    (inBox : a.box.Holds (a.project (i : K) v)) : (a.project (i : K) v).pixel ∈ seriesPixels a values := by
  have point : ∀ j : ℕ, (seriesPoints a values)[j]? = values[j]?.map fun v => some (a.project (j : K) v) := by
    intro j
    rw [seriesPoints_eq, List.getElem?_mapIdx, Array.getElem?_toList]
  have here : (seriesPoints a values)[i]? = some (some (a.project (i : K) v)) := by
    rw [point, ith]
    rfl
  rw [mem_seriesPixels]
  rcases next : values[i + 1]? with _ | v'
  · -- the last sample, which is the only one or has one before it
    obtain ⟨inside, -⟩ := Array.getElem?_eq_some_iff.mp ith
    have last := Array.getElem?_eq_none_iff.mp next
    rcases i with _ | i
    · have length : (seriesPoints a values).length = 1 := by
        rw [length_seriesPoints]
        omega
      obtain ⟨p, alone⟩ := List.length_eq_one_iff.mp length
      rw [alone] at here
      cases here
      exact .inr ⟨_, alone, rfl⟩
    · have before : (seriesPoints a values)[i]? = some (some (a.project (i : K) values[i])) := by
        rw [point, Array.getElem?_eq_getElem (by omega)]
        rfl
      exact .inl ⟨_, _, ⟨i, before, here⟩, mem_segmentPixels.mp ((pixel_mem_segmentPixels a.box _ _).2 inBox)⟩
  · have after : (seriesPoints a values)[i + 1]? = some (some (a.project ((i + 1 : ℕ) : K) v')) := by
      rw [point, next]
      rfl
    exact .inl ⟨_, _, ⟨i, here, after⟩, mem_segmentPixels.mp ((pixel_mem_segmentPixels a.box _ _).1 inBox)⟩

/-! ## The picture -/

theorem seriesColor_ne (index : ℕ) : seriesColor index ≠ background ∧ seriesColor index ≠ zeroLineColor := by
  have each : ∀ i : Fin 4, palette[i] ≠ background ∧ palette[i] ≠ zeroLineColor := by decide
  exact each ⟨index % 4, Nat.mod_lt index (by decide)⟩

/-- Samples on a plot, read exactly. The picture of a plot with a proper window has every sample inside it, of
any series, wherever the samples beside it are and also when there are none: the pixel that the sample is
projected to, if the canvas has it, is not left white, or grey like the line at height zero. It is black, on the
frame, or has the colour of this series or of a later one whose line or swatch is there. A canvas with two
pixels each way has all such pixels. -/
theorem render_shows (p : Plot K) (across : p.xRange.low < p.xRange.high) (upward : p.yRange.low < p.yRange.high)
    {width height : ℕ} (wide : 0 < width) (high : 0 < height) {k i : ℕ} {s : Series K} {v : K}
    (kth : p.series[k]? = some s) (ith : s.values[i]? = some v) (inX : p.xRange.low ≤ i ∧ (i : K) ≤ p.xRange.high)
    (inY : p.yRange.low ≤ v ∧ v ≤ p.yRange.high) :
    let a := p.axesOf width height
    let q := (a.project (i : K) v).pixel
    ∃ image, p.render width height = .ok image ∧ image.width = width ∧ image.height = height ∧
      (2 ≤ width → 2 ≤ height → image.Has q.x q.y) ∧
      (image.Has q.x q.y → ∃ color, image.get? q.x.toNat q.y.toNat = some color ∧
        color ≠ background ∧ color ≠ zeroLineColor ∧
        (color = frameColor ∧ q ∈ framePixels a.box ∨
          ∃ j later, k ≤ j ∧ p.series[j]? = some later ∧ color = seriesColor j ∧
            (q ∈ seriesPixels a later.values ∨ q ∈ swatchPixels a.box j))) := by
  intro a q
  have holds : a.box.Holds (a.project (i : K) v) :=
    a.holds_project (Box.ofCanvas_ordered width height) across upward inX inY
  have inBox : a.box.Has q := holds.has_pixel
  obtain ⟨⟨x_nonneg, y_nonneg⟩, onCanvas⟩ := inBox.onCanvas
  obtain ⟨image, rendered, sameWidth, sameHeight, shows⟩ := p.exists_image wide high
  refine ⟨image, rendered, sameWidth, sameHeight, fun columns rows => ?_, fun has => ?_⟩
  · obtain ⟨inWidth, inHeight⟩ := onCanvas columns rows
    exact ⟨⟨x_nonneg, sameWidth ▸ inWidth⟩, y_nonneg, sameHeight ▸ inHeight⟩
  have covers : Covers a k s.values q := .inl (pixel_mem_seriesPixels ith holds)
  obtain ⟨x, hx⟩ := Int.eq_ofNat_of_zero_le x_nonneg
  obtain ⟨y, hy⟩ := Int.eq_ofNat_of_zero_le y_nonneg
  have place : q = ⟨x, y⟩ := by rw [← hx, ← hy]
  rw [place] at has inBox covers ⊢
  obtain ⟨color, shown, has⟩ := shows x y has inBox
  refine ⟨color, shown, ?_⟩
  cases has with
  | frame border => exact ⟨by decide, by decide, .inl ⟨rfl, border⟩⟩
  | series j later inner jth coversLater last =>
    have notBefore : k ≤ j := by
      by_contra before
      exact last k s (Nat.lt_of_not_le before) kth covers
    exact ⟨(seriesColor_ne j).1, (seriesColor_ne j).2, .inr ⟨j, later, notBefore, jth, rfl, coversLater⟩⟩
  | zeroLine inner bare level => exact absurd covers (bare k s kth)
  | background inner bare off => exact absurd covers (bare k s kth)

/-- One sample in the window, between two far outside. -/
def spikes : Plot ℚ := (spanning 4).withSeries "y" #[7, 1 / 2, -100]

theorem render_shows_spikes :
    spikes.xRange.low < spikes.xRange.high ∧ spikes.yRange.low < spikes.yRange.high ∧
    spikes.series[0]? = some ⟨"y", #[7, 1 / 2, -100]⟩ ∧
    ∃ image, spikes.render 40 30 = .ok image ∧ image.get? 13 9 = some (seriesColor 0) := by
  have across : spikes.xRange.low < spikes.xRange.high := by decide +kernel
  have upward : spikes.yRange.low < spikes.yRange.high := by decide +kernel
  obtain ⟨image, rendered, -, -, onCanvas, shown⟩ :=
    render_shows (i := 1) (v := 1 / 2) (k := 0) spikes across upward
    (show 0 < 40 by decide) (show 0 < 30 by decide) rfl rfl (by decide +kernel) (by decide +kernel)
  have place : ((spikes.axesOf 40 30).project ((1 : ℕ) : ℚ) (1 / 2)).pixel = ⟨13, 9⟩ := by decide +kernel
  rw [place] at onCanvas shown
  obtain ⟨color, here, -, -, border | ⟨j, later, -, jth, rfl, -⟩⟩ := shown (onCanvas (by decide) (by decide))
  · exact absurd border.2 (by decide +kernel)
  · obtain _ | j := j
    · exact ⟨across, upward, rfl, image, rendered, here⟩
    · cases jth

end BufferScope.Plot
