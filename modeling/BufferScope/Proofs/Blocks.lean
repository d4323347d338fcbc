/-
Lists in blocks of one width, of which the last may be short: how many there are, and where each lies
when they are joined.
-/
import Mathlib.Algebra.Order.Floor.Div
import Mathlib.Tactic

namespace BufferScope

variable {α : Type}

/-! ## Blocks of one width -/

theorem length_flatMap_range {f : ℕ → List α} {width n : ℕ} (even : ∀ k < n, (f k).length = width) :
    ((List.range n).flatMap f).length = n * width := by
  rw [List.length_flatMap, List.map_congr_left fun k member => even k (List.mem_range.mp member), List.map_const',
    List.sum_replicate, List.length_range, smul_eq_mul]

/-- Blocks of one width follow each other at multiples of it. -/
theorem getElem?_flatMap_range {f : ℕ → List α} {width n : ℕ}
    (even : ∀ k < n, (f k).length = width) {k c : ℕ} (block : k < n) (inside : c < width) :
    ((List.range n).flatMap f)[k * width + c]? = (f k)[c]? := by
  induction n with
  | zero => omega
  | succ n ih =>
    have even' : ∀ k < n, (f k).length = width := fun k below => even k (Nat.lt_succ_of_lt below)
    have length := length_flatMap_range even'
    rw [List.range_succ, List.flatMap_append, List.flatMap_singleton]
    rcases Nat.lt_succ_iff_lt_or_eq.mp block with earlier | rfl
    · rw [List.getElem?_append_left, ih even' earlier]
      calc k * width + c < (k + 1) * width := by rw [Nat.succ_mul]; omega
        _ ≤ n * width := Nat.mul_le_mul_right _ earlier
        _ = _ := length.symm
    · rw [List.getElem?_append_right (by omega), length, Nat.add_sub_cancel_left]

/-- Blocks of one width, of which the last may be short, are found where they begin. -/
theorem take_drop_flatMap_range {f : ℕ → List α} {width n : ℕ} (full : ∀ k, k + 1 < n → (f k).length = width)
    (fits : ∀ k < n, (f k).length ≤ width) {k : ℕ} (block : k < n) :
    (((List.range n).flatMap f).drop (k * width)).take width = f k := by
  induction n with
  | zero => omega
  | succ n ih =>
    have length : ((List.range n).flatMap f).length = n * width :=
      length_flatMap_range fun k below => full k (Nat.succ_lt_succ below)
    rw [List.range_succ, List.flatMap_append, List.flatMap_singleton]
    rcases Nat.lt_succ_iff_lt_or_eq.mp block with earlier | rfl
    · -- the block ends before the last one begins
      have ends : (k + 1) * width ≤ n * width := Nat.mul_le_mul_right _ earlier
      rw [Nat.succ_mul] at ends
      rw [List.drop_append_of_le_length (by omega), List.take_append_of_le_length (by rw [List.length_drop]; omega)]
      exact ih (fun k below => full k (by omega)) (fun k below => fits k (by omega)) earlier
    · rw [← length, List.drop_left]
      exact List.take_of_length_le (fits k block)

/-- Stretches of one size that follow each other join to what they were cut from. -/
theorem flatMap_stretches (samples : List α) (size n : Nat) :
    ((List.range n).flatMap fun j => (samples.drop (j * size)).take size) = samples.take (n * size) := by
  induction n with
  | zero => simp
  | succ n ih =>
    rw [List.range_succ, List.flatMap_append, ih, Nat.succ_mul, List.take_add, List.flatMap_singleton]

/-- There is a buffer `j` exactly when the frames reach into it. -/
theorem lt_ceilDiv {size : Nat} (positive : 0 < size) (frames j : Nat) :
    j < frames ⌈/⌉ size ↔ j * size < frames := by
  rw [← not_le, ← not_le, ceilDiv_le_iff_le_mul positive, Nat.mul_comm]

/-- Full buffers first, and then as many as the rest takes. -/
theorem ceilDiv_mul_add {size : Nat} (positive : 0 < size) (full frames : Nat) :
    (size * full + frames) ⌈/⌉ size = full + frames ⌈/⌉ size := by
  rw [Nat.ceilDiv_eq_add_pred_div, Nat.ceilDiv_eq_add_pred_div,
    show size * full + frames + size - 1 = size * full + (frames + size - 1) by omega, Nat.mul_add_div positive]

/-- The buffers are enough for the frames. -/
theorem le_ceilDiv_mul {size : Nat} (positive : 0 < size) (frames : Nat) : frames ≤ (frames ⌈/⌉ size) * size :=
  Nat.le_of_not_lt ((lt_ceilDiv positive frames _).not.mp (Nat.lt_irrefl _))

/-- The lengths of the buffers add up to the frames. -/
theorem sum_min_buffers {size : Nat} (positive : 0 < size) (frames : Nat) :
    ((List.range (frames ⌈/⌉ size)).map fun j => min size (frames - j * size)).sum = frames := by
  have joined := congrArg List.length (flatMap_stretches (List.replicate frames ()) size (frames ⌈/⌉ size))
  rw [List.length_flatMap, List.length_take, List.length_replicate,
    min_eq_right (le_ceilDiv_mul positive frames)] at joined
  simpa only [List.length_take, List.length_drop, List.length_replicate] using joined

end BufferScope
