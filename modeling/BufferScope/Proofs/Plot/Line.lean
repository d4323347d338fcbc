/-
The line between two pixels. Its walk needs no bound on its moves: `LineWalk.traces_linePixels` says that it
ends, after as many moves as the larger extent has pixels. One invariant carries this: the offset from the true
line, counted in the extents, is at most half the larger of them, so the coordinate along that extent moves every
time and neither coordinate goes past the target.
-/
import Mathlib.Algebra.Order.Ring.Abs
import Mathlib.Algebra.Order.Ring.Int
import Mathlib.Data.List.Chain
import Mathlib.Data.List.Nodup
import Mathlib.Data.List.Range
import Mathlib.Logic.Function.Iterate
import Mathlib.Tactic.Linarith
import Mathlib.Tactic.Ring
import BufferScope.Plot.Line

namespace BufferScope.Plot

namespace LineWalk

/-! ## The walk without a bound -/

/-- The pixels of a walk that goes on until it stands on its target. -/
inductive Traces : LineWalk → List Pixel → Prop
  | stop {w : LineWalk} (there : w.place = w.target) : Traces w [w.place]
  | move {w : LineWalk} {path : List Pixel} (underWay : w.place ≠ w.target) (rest : Traces w.step path) :
      Traces w (w.place :: path)

theorem Traces.unique {w : LineWalk} {path other : List Pixel} (traces : w.Traces path) (traces' : w.Traces other) :
    path = other := by
  induction traces generalizing other with
  | stop there =>
    cases traces' with
    | stop => rfl
    | move underWay => exact absurd there underWay
  | move underWay rest ih =>
    cases traces' with
    | stop there => exact absurd there underWay
    | move _ rest' => rw [ih rest']

/-- A walk that stands on its target after some moves, and not before, needs no more of them. -/
theorem traces_visited {moves : ℕ} : ∀ {w : LineWalk}, (step^[moves] w).place = w.target →
    (∀ n < moves, (step^[n] w).place ≠ w.target) →
    w.Traces (w.visited moves) ∧ w.visited moves = (List.range (moves + 1)).map fun n => (step^[n] w).place := by
  induction moves with
  | zero => exact fun there _ => ⟨.stop there, rfl⟩
  | succ moves ih =>
    intro w there before
    have underWay : w.place ≠ w.target := before 0 moves.succ_pos
    obtain ⟨traces, listed⟩ := ih (w := w.step) there fun n less => before (n + 1) (Nat.succ_lt_succ less)
    have visited : w.visited (moves + 1) = w.place :: w.step.visited moves := if_neg underWay
    rw [visited]
    refine ⟨.move underWay traces, ?_⟩
    rw [listed, show List.range (moves + 1 + 1) = _ from List.range_succ_eq_map, List.map_cons, List.map_map]
    rfl

/-! ## Slopes -/

/-- One move keeps the offset from the line within half the larger extent, and advances along that extent. -/
theorem offset_move {width rise x y : ℤ} (width_nonneg : 0 ≤ width) (rise_nonpos : rise ≤ 0)
    (near : 2 * |y * width + x * rise| ≤ max width (-rise)) {x' y' : ℤ}
    (moveX : x' = if rise ≤ 2 * (width + rise + (y * width + x * rise)) then x + 1 else x)
    (moveY : y' = if 2 * (width + rise + (y * width + x * rise)) ≤ width then y + 1 else y) :
    2 * |y' * width + x' * rise| ≤ max width (-rise) ∧ (-rise ≤ width → x' = x + 1) ∧
      (width ≤ -rise → y' = y + 1) := by
  have moved : y' * width + x' * rise = y * width + x * rise + (y' - y) * width + (x' - x) * rise := by ring
  generalize y * width + x * rise = offset at near moveX moveY moved
  have bounds := abs_le.mp (show |offset| ≤ max width (-rise) / 2 by omega)
  have close : |y' * width + x' * rise| ≤ max width (-rise) / 2 := by
    rw [moved, abs_le]
    split at moveX <;> split at moveY <;> subst moveX moveY <;>
      simp only [add_sub_cancel_left, sub_self, one_mul, zero_mul] <;> omega
  refine ⟨by omega, fun flat => ?_, fun steep => ?_⟩
  · rw [moveX, if_pos (by omega)]
  · rw [moveY, if_pos (by omega)]

/-- Half a pixel off the line leaves a place between the ends of the smaller extent, and at its end for the end of
the larger one. -/
theorem bounds_of_offset {wide tall n y : ℤ} (tall_nonneg : 0 ≤ tall) (flat : tall ≤ wide) (n_nonneg : 0 ≤ n)
    (inside : n ≤ wide) (near : 2 * |y * wide - n * tall| ≤ wide) (point : wide = 0 → y = n) :
    0 ≤ y ∧ y ≤ tall ∧ (n = wide → y = tall) := by
  obtain rfl | positive := (tall_nonneg.trans flat).eq_or_lt
  · have := point rfl
    omega
  have low := neg_abs_le (y * wide - n * tall)
  have high := le_abs_self (y * wide - n * tall)
  refine ⟨?_, ?_, ?_⟩
  · by_contra below
    nlinarith
  · by_contra above
    nlinarith
  · rintro rfl
    obtain less | same | more := lt_trichotomy y tall
    · nlinarith
    · exact same
    · nlinarith

/-! ## Places on the way -/

section Way

variable (source target : Pixel)

theorem width_start : (start source target).width = |target.x - source.x| := Int.natCast_natAbs _

theorem rise_start : (start source target).rise = -|target.y - source.y| := congrArg Neg.neg (Int.natCast_natAbs _)

/-- The walk after some moves to the side and some up or down. -/
def moved (x y : ℤ) : LineWalk :=
  let w := start source target
  { w with
    place := ⟨source.x + x * w.stepX, source.y + y * w.stepY⟩
    error := w.width + w.rise + (y * w.width + x * w.rise) }

theorem start_eq_moved : start source target = moved source target 0 0 := by
  simp [moved, start, sub_eq_add_neg]

theorem step_moved (x y : ℤ) :
    (moved source target x y).step = moved source target
      (if (start source target).rise ≤ 2 * (moved source target x y).error then x + 1 else x)
      (if 2 * (moved source target x y).error ≤ (start source target).width then y + 1 else y) := by
  have width : (moved source target x y).width = (start source target).width := rfl
  have rise : (moved source target x y).rise = (start source target).rise := rfl
  unfold step
  rw [width, rise]
  dsimp only
  split <;> split <;>
    simp only [moved, mk.injEq, Pixel.mk.injEq, true_and, and_true, add_mul, one_mul, add_zero] <;> grind

/-- Where a walk is after `n` moves. It is at most half a pixel off the line, and has gone `n` pixels along the
larger extent, or along both if they are the same. -/
structure Reached (n : ℕ) (x y : ℤ) (w : LineWalk) : Prop where
  place : w = moved source target x y
  near : 2 * |y * (start source target).width + x * (start source target).rise| ≤
    max (start source target).width (-(start source target).rise)
  flat : -(start source target).rise ≤ (start source target).width → x = n
  steep : (start source target).width ≤ -(start source target).rise → y = n

variable {source target}

theorem Reached.step {n : ℕ} {x y : ℤ} {w : LineWalk} (reached : Reached source target n x y w) :
    ∃ x' y', Reached source target (n + 1) x' y' w.step ∧ (x' = x ∨ x' = x + 1) ∧ (y' = y ∨ y' = y + 1) := by
  obtain ⟨rfl, near, flat, steep⟩ := reached
  have width_nonneg : 0 ≤ (start source target).width := Int.natCast_nonneg _
  have rise_nonpos : (start source target).rise ≤ 0 := neg_nonpos.mpr (Int.natCast_nonneg _)
  obtain ⟨near', flat', steep'⟩ := offset_move width_nonneg rise_nonpos near rfl rfl
  refine ⟨_, _, ⟨step_moved source target x y, near', fun wide => ?_, fun tall => ?_⟩, ?_, ?_⟩
  · rw [Nat.cast_succ, ← flat wide]
    exact flat' wide
  · rw [Nat.cast_succ, ← steep tall]
    exact steep' tall
  · split
    · exact .inr rfl
    · exact .inl rfl
  · split
    · exact .inr rfl
    · exact .inl rfl

theorem exists_reached (source target : Pixel) (n : ℕ) :
    ∃ x y, Reached source target n x y (LineWalk.step^[n] (start source target)) := by
  induction n with
  | zero => exact ⟨0, 0, start_eq_moved source target, by simp [rise_start], fun _ => rfl, fun _ => rfl⟩
  | succ n ih =>
    obtain ⟨x, y, reached⟩ := ih
    obtain ⟨x', y', next, -, -⟩ := reached.step
    rw [Function.iterate_succ_apply']
    exact ⟨x', y', next⟩

theorem lineMoves_eq (source target : Pixel) :
    (lineMoves source target : ℤ) = max (start source target).width (-(start source target).rise) := by
  unfold lineMoves
  rw [Nat.cast_max, width_start, rise_start, neg_neg, Int.natCast_natAbs, Int.natCast_natAbs]

/-- No walk has gone past its target in either coordinate by the last of its moves, and with that it has come to
the end of both. -/
theorem Reached.bounds {n : ℕ} {x y : ℤ} {w : LineWalk} (reached : Reached source target n x y w)
    (inside : n ≤ lineMoves source target) :
    (0 ≤ x ∧ x ≤ (start source target).width) ∧ (0 ≤ y ∧ y ≤ -(start source target).rise) ∧
      (n = lineMoves source target → x = (start source target).width ∧ y = -(start source target).rise) := by
  obtain ⟨-, near, flat, steep⟩ := reached
  have width_nonneg : 0 ≤ (start source target).width := Int.natCast_nonneg _
  have rise_nonpos : (start source target).rise ≤ 0 := neg_nonpos.mpr (Int.natCast_nonneg _)
  have most := lineMoves_eq source target
  rw [← sub_neg_eq_add, ← mul_neg] at near
  obtain wide | tall := le_total (-(start source target).rise) (start source target).width
  · obtain rfl := flat wide
    rw [max_eq_left wide] at near most
    obtain ⟨low, high, last⟩ :=
      bounds_of_offset (by omega) wide (by omega) (by omega) near fun point => steep (by omega)
    exact ⟨⟨by omega, by omega⟩, ⟨low, high⟩, fun done => ⟨by omega, last (by omega)⟩⟩
  · obtain rfl := steep tall
    rw [max_eq_right tall, abs_sub_comm] at near
    rw [max_eq_right tall] at most
    obtain ⟨low, high, last⟩ :=
      bounds_of_offset width_nonneg tall (by omega) (by omega) near fun point => flat (by omega)
    exact ⟨⟨low, high⟩, ⟨by omega, by omega⟩, fun done => ⟨last (by omega), by omega⟩⟩

/-! ## The signs of the steps -/

theorem step_signs (source target : Pixel) :
    ((start source target).stepX = 1 ∨ (start source target).stepX = -1) ∧
      ((start source target).stepY = 1 ∨ (start source target).stepY = -1) :=
  ⟨ite_eq_or_eq .., ite_eq_or_eq ..⟩

theorem target_eq (source target : Pixel) :
    target.x = source.x + (start source target).width * (start source target).stepX ∧
      target.y = source.y + -(start source target).rise * (start source target).stepY := by
  unfold start
  constructor
  · dsimp only
    split <;> omega
  · dsimp only
    split <;> omega

/-- The place after the last move is the target. -/
theorem Reached.place_eq_target {n : ℕ} {x y : ℤ} {w : LineWalk} (reached : Reached source target n x y w)
    (last : n = lineMoves source target) : w.place = target := by
  obtain ⟨-, -, ends⟩ := reached.bounds last.le
  obtain ⟨rfl, rfl⟩ := ends last
  obtain ⟨endX, endY⟩ := target_eq source target
  rw [reached.place]
  exact (Pixel.mk.injEq ..).mpr ⟨endX.symm, endY.symm⟩

/-- The place tells how many moves led to it. -/
theorem Reached.moves_eq {n m : ℕ} {x y x' y' : ℤ} {w v : LineWalk} (reached : Reached source target n x y w)
    (reached' : Reached source target m x' y' v) (same : w.place = v.place) : n = m := by
  obtain ⟨signX, signY⟩ := step_signs source target
  rw [reached.place, reached'.place] at same
  obtain ⟨sameX, sameY⟩ := (Pixel.mk.injEq ..).mp same
  obtain wide | tall := le_total (-(start source target).rise) (start source target).width
  · have := reached.flat wide
    have := reached'.flat wide
    obtain sign | sign := signX <;> rw [sign] at sameX <;> omega
  · have := reached.steep tall
    have := reached'.steep tall
    obtain sign | sign := signY <;> rw [sign] at sameY <;> omega

end Way

end LineWalk

open LineWalk (start)

/-- The pixels of a line are the places of its walk. The walk ends with the last of them. -/
theorem linePixels_eq (source target : Pixel) :
    (start source target).Traces (linePixels source target) ∧
      linePixels source target =
        (List.range (lineMoves source target + 1)).map fun n => (LineWalk.step^[n] (start source target)).place := by
  obtain ⟨x, y, reached⟩ := LineWalk.exists_reached source target (lineMoves source target)
  have ended := reached.place_eq_target rfl
  refine LineWalk.traces_visited ended fun n less there => ?_
  obtain ⟨x', y', reached'⟩ := LineWalk.exists_reached source target n
  exact less.ne (reached'.moves_eq reached (there.trans ended.symm))

theorem head?_linePixels (source target : Pixel) : (linePixels source target).head? = some source := by
  rw [(linePixels_eq source target).2, List.range_succ_eq_map]
  rfl

theorem getLast?_linePixels (source target : Pixel) : (linePixels source target).getLast? = some target := by
  obtain ⟨x, y, reached⟩ := LineWalk.exists_reached source target (lineMoves source target)
  rw [(linePixels_eq source target).2, List.range_succ, List.map_append, List.map_singleton, List.getLast?_concat]
  exact congrArg some (reached.place_eq_target rfl)

/-- What one move of a line does to the place: at most one pixel to the side and one up or down, never away from the
target, and always one along the larger extent. -/
structure LineMove (source target p q : Pixel) : Prop where
  adjacent : |q.x - p.x| ≤ 1 ∧ |q.y - p.y| ≤ 1
  nearer : |target.x - q.x| ≤ |target.x - p.x| ∧ |target.y - q.y| ≤ |target.y - p.y|
  flat : |target.y - source.y| ≤ |target.x - source.x| → q.x ≠ p.x
  steep : |target.x - source.x| ≤ |target.y - source.y| → q.y ≠ p.y

/-- A coordinate that counts up to its extent, or stays, comes no further from its end. -/
theorem step_toward (origin : ℤ) {extent sign x x' : ℤ} (unit : sign = 1 ∨ sign = -1)
    (counted : x' = x ∨ x' = x + 1) (inside : x' ≤ extent) :
    |origin + x' * sign - (origin + x * sign)| ≤ 1 ∧
      |origin + extent * sign - (origin + x' * sign)| ≤ |origin + extent * sign - (origin + x * sign)| ∧
      (x' = x + 1 → origin + x' * sign ≠ origin + x * sign) := by
  have size : |sign| = 1 := by
    obtain rfl | rfl := unit <;> rfl
  simp only [add_sub_add_left_eq_sub, ← sub_mul, abs_mul, size, mul_one]
  refine ⟨?_, ?_, ?_⟩
  · obtain rfl | rfl := counted <;> simp
  · rw [abs_of_nonneg (by omega), abs_of_nonneg (by omega)]
    omega
  · rintro rfl same
    obtain rfl | rfl := unit <;> omega

theorem lineMove_step {source target : Pixel} {n : ℕ} (underWay : n < lineMoves source target) :
    LineMove source target (LineWalk.step^[n] (start source target)).place
      (LineWalk.step^[n + 1] (start source target)).place := by
  obtain ⟨x, y, reached⟩ := LineWalk.exists_reached source target n
  obtain ⟨x', y', reached', sideways, upward⟩ := reached.step
  rw [Function.iterate_succ_apply', reached'.place, reached.place]
  obtain ⟨⟨-, insideX⟩, ⟨-, insideY⟩, -⟩ := reached'.bounds underWay
  obtain ⟨signX, signY⟩ := LineWalk.step_signs source target
  obtain ⟨endX, endY⟩ := LineWalk.target_eq source target
  obtain ⟨adjacentX, nearerX, movedX⟩ := step_toward source.x signX sideways insideX
  obtain ⟨adjacentY, nearerY, movedY⟩ := step_toward source.y signY upward insideY
  rw [← endX] at nearerX
  rw [← endY] at nearerY
  refine ⟨⟨adjacentX, adjacentY⟩, ⟨nearerX, nearerY⟩, fun wide => movedX ?_, fun tall => movedY ?_⟩
  · rw [← LineWalk.width_start, ← neg_neg (|target.y - source.y|), ← LineWalk.rise_start] at wide
    have := reached.flat wide
    have := reached'.flat wide
    omega
  · rw [← LineWalk.width_start, ← neg_neg (|target.y - source.y|), ← LineWalk.rise_start] at tall
    have := reached.steep tall
    have := reached'.steep tall
    omega

/-- Every pixel of a line is at most half a pixel off the true line, along the smaller extent. -/
theorem near_of_mem {source target p : Pixel} (member : p ∈ linePixels source target) :
    2 * |(p.y - source.y) * |target.x - source.x| * (start source target).stepY -
        (p.x - source.x) * |target.y - source.y| * (start source target).stepX| ≤
      max (|target.x - source.x|) (|target.y - source.y|) := by
  rw [(linePixels_eq source target).2] at member
  obtain ⟨n, -, rfl⟩ := List.mem_map.mp member
  obtain ⟨x, y, reached⟩ := LineWalk.exists_reached source target n
  obtain ⟨signX, signY⟩ := LineWalk.step_signs source target
  have near := reached.near
  rw [LineWalk.width_start, LineWalk.rise_start, neg_neg, mul_neg, ← sub_eq_add_neg] at near
  have upward : (source.y + y * (start source target).stepY - source.y) * |target.x - source.x| *
      (start source target).stepY = y * |target.x - source.x| := by
    obtain sign | sign := signY <;> rw [sign] <;> ring
  have sideways : (source.x + x * (start source target).stepX - source.x) * |target.y - source.y| *
      (start source target).stepX = x * |target.y - source.y| := by
    obtain sign | sign := signX <;> rw [sign] <;> ring
  rw [reached.place]
  unfold LineWalk.moved
  dsimp only
  rw [upward, sideways]
  exact near

/-- The line between two pixels, in any direction, along an axis, or from a pixel to itself. Without a bound its
walk has one course, the pixels of the line, and so it ends, after as many moves as the larger of the two extents.
It begins at the source and ends at the target; each move goes on by at most one pixel in each coordinate, never
away from the target, and always along the larger extent; no pixel comes twice; and each is at most half a pixel off
the true line. -/
theorem traces_linePixels (source target : Pixel) :
    (∀ path, (start source target).Traces path ↔ path = linePixels source target) ∧
    ((linePixels source target).length : ℤ) = max (|target.x - source.x|) (|target.y - source.y|) + 1 ∧
    (linePixels source target).head? = some source ∧
    (linePixels source target).getLast? = some target ∧
    (linePixels source target).IsChain (LineMove source target) ∧
    (linePixels source target).Nodup ∧
    ∀ p ∈ linePixels source target,
      2 * |(p.y - source.y) * |target.x - source.x| * (if source.y < target.y then 1 else -1) -
          (p.x - source.x) * |target.y - source.y| * (if source.x < target.x then 1 else -1)| ≤
        max (|target.x - source.x|) (|target.y - source.y|) := by
  obtain ⟨traces, listed⟩ := linePixels_eq source target
  refine ⟨fun path => ⟨fun other => other.unique traces, fun same => same ▸ traces⟩,
    ?_, ?_, ?_, ?_, ?_, fun p => near_of_mem⟩
  · rw [listed, List.length_map, List.length_range, Nat.cast_succ, LineWalk.lineMoves_eq, LineWalk.width_start,
      LineWalk.rise_start, neg_neg]
  · exact head?_linePixels source target
  · exact getLast?_linePixels source target
  · rw [listed, List.isChain_map, List.isChain_range_succ]
    exact fun n underWay => lineMove_step underWay
  · rw [listed]
    refine List.Nodup.map_on (fun n _ m _ same => ?_) List.nodup_range
    obtain ⟨x, y, reached⟩ := LineWalk.exists_reached source target n
    obtain ⟨x', y', reached'⟩ := LineWalk.exists_reached source target m
    exact reached.moves_eq reached' same

end BufferScope.Plot
