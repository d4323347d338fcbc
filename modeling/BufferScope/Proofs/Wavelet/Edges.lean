/-
The extended signal at every index, however far outside. All reads of all extensions fall inside the signal, and each
extension of a reversed signal is the reversed extension, so that what holds past one edge holds past the other. The
mirror image repeats without end, also under windows much longer than the signal; the constant extension shows the
nearest sample; the smooth one leaves either edge with the step of the two samples there.
-/
import Mathlib.Algebra.Ring.Periodic
import BufferScope.Proofs.Wavelet.Extension
import BufferScope.Proofs.Wavelet.Transform

namespace BufferScope.Wavelet

variable {ρ : Type}

/-- An array backwards is read from its other end. -/
theorem entry?_reverse (values : Array ρ) (index : ℤ) :
    entry? values.reverse index = entry? values (values.size - 1 - index) := by
  by_cases inside : 0 ≤ index ∧ index < values.size
  · obtain ⟨n, rfl⟩ := Int.eq_ofNat_of_zero_le inside.1
    have before : n < values.size := by omega
    have last : values.size - 1 - n < values.size := by omega
    rw [entry?_eq_some rfl (by rwa [Array.size_reverse]), entry?_eq_some (by omega) last, Array.getElem_reverse]
  · rw [entry?_eq_none (by rwa [Array.size_reverse]), entry?_eq_none (by omega)]

namespace Extension

/-! ## The repeated mirror image -/

/-- The place among `n` samples that an index sees in their mirror image, which repeats after twice their length. -/
def mirrored (n : ℕ) (index : ℤ) : ℤ :=
  if index % (2 * n) < n then index % (2 * n) else 2 * n - 1 - index % (2 * n)

section Mirrored

variable {n : ℕ}

/-- Whole periods away from a place or from its image before the signal, that place is seen. -/
theorem mirrored_eq {index place : ℤ} (turns : ℤ) (low : 0 ≤ place) (high : place < n)
    (seen : index = place + 2 * n * turns ∨ index = -1 - place + 2 * n * turns) : mirrored n index = place := by
  unfold mirrored
  rcases seen with rfl | rfl
  · have phase : (place + 2 * n * turns) % (2 * n) = place := by
      rw [Int.add_mul_emod_self_left, Int.emod_eq_of_lt low (by omega)]
    rw [phase, if_pos high]
  · -- one period later the image is no longer negative, and is its own remainder
    have phase : (-1 - place + 2 * n * turns) % (2 * n) = 2 * n - 1 - place := by
      rw [Int.add_mul_emod_self_left, ← Int.add_emod_right, Int.emod_eq_of_lt (by omega) (by omega)]
      ring
    rw [phase, if_neg (by omega)]
    ring

/-- Every index sees a place, whole periods away from it or from its image. -/
theorem mirrored_seen (positive : 0 < n) (index : ℤ) :
    0 ≤ mirrored n index ∧ mirrored n index < n ∧ ∃ turns : ℤ,
      index = mirrored n index + 2 * n * turns ∨ index = -1 - mirrored n index + 2 * n * turns := by
  have low : 0 ≤ index % (2 * n) := Int.emod_nonneg index (by omega)
  have high : index % (2 * n) < 2 * n := Int.emod_lt_of_pos index (by omega)
  have whole : index % (2 * n) + 2 * n * (index / (2 * n)) = index := Int.emod_add_mul_ediv index (2 * n)
  unfold mirrored
  split
  · exact ⟨low, by omega, index / (2 * n), .inl whole.symm⟩
  · exact ⟨by omega, by omega, index / (2 * n) + 1, .inr (by linarith)⟩

theorem mirrored_inside {index : ℤ} (low : 0 ≤ index) (high : index < n) : mirrored n index = index :=
  mirrored_eq 0 low high (.inl (by ring))

theorem mirrored_period (positive : 0 < n) (index : ℤ) : mirrored n (index + 2 * n) = mirrored n index := by
  obtain ⟨low, high, turns, seen⟩ := mirrored_seen positive index
  exact mirrored_eq (turns + 1) low high (seen.imp (fun h => by linarith) (fun h => by linarith))

/-- The mirror at the first edge: an index and its image see the same place. -/
theorem mirrored_image (positive : 0 < n) (index : ℤ) : mirrored n (-1 - index) = mirrored n index := by
  obtain ⟨low, high, turns, seen⟩ := mirrored_seen positive index
  exact mirrored_eq (-turns) low high (seen.symm.imp (fun h => by linarith) (fun h => by linarith))

/-- From the other end, an index sees the place that is as far from that end. -/
theorem mirrored_reverse (positive : 0 < n) (index : ℤ) :
    mirrored n (n - 1 - index) = n - 1 - mirrored n index := by
  obtain ⟨low, high, turns, seen | seen⟩ := mirrored_seen positive index
  · exact mirrored_eq (-turns) (by omega) (by omega) (.inl (by linarith))
  · -- an image lies before the signal, and so, reversed, it is the image from one period on
    exact mirrored_eq (1 - turns) (by omega) (by omega) (.inr (by linarith))

end Mirrored

/-! ## Checked reads -/

section Checked

variable [Add ρ] [Sub ρ] [Mul ρ] [NatCast ρ]

/-- A place some steps beyond `edge` on the line from `next` through it, with both reads checked. -/
def beyond? (signal : Array ρ) (edge next : ℤ) (steps : ℕ) : Option ρ := do
  let first ← entry? signal edge
  let second ← entry? signal next
  return first + (steps : ρ) * (first - second)

theorem beyond?_eq_some {signal : Array ρ} {edge next : ℤ} {e n : ℕ} (steps : ℕ) (first : edge = e)
    (second : next = n) (here : e < signal.size) (there : n < signal.size) :
    beyond? signal edge next steps = some (signal[e] + (steps : ρ) * (signal[e] - signal[n])) := by
  unfold beyond?
  rw [entry?_eq_some first here, entry?_eq_some second there]
  rfl

theorem beyond?_reverse (signal : Array ρ) (edge next : ℤ) (steps : ℕ) :
    beyond? signal.reverse edge next steps =
      beyond? signal (signal.size - 1 - edge) (signal.size - 1 - next) steps := by
  unfold beyond?
  rw [entry?_reverse, entry?_reverse]

variable [Zero ρ]

/-- The extended signal at `index`, by reads at whole indices that are checked: `none` where one falls outside. -/
def sampleAt? (mode : Extension) (signal : Array ρ) (index : ℤ) : Option ρ :=
  let n : ℤ := signal.size
  if 0 ≤ index ∧ index < n then entry? signal index
  else match mode with
    | .zero => some 0
    | .constant => entry? signal (if index < 0 then 0 else n - 1)
    | .smooth =>
      if n = 1 then entry? signal 0
      else if index < 0 then beyond? signal 0 1 (-index).toNat
      else beyond? signal (n - 1) (n - 2) (index - (n - 1)).toNat
    | .symmetric => entry? signal (mirrored signal.size index)

/-- No read falls outside: the checked reads find the extended signal everywhere. -/
theorem sampleAt?_eq (mode : Extension) (signal : Array ρ) (nonempty : 0 < signal.size) (index : ℤ) :
    mode.sampleAt? signal index = some (mode.sampleAt signal nonempty index) := by
  unfold sampleAt? sampleAt
  dsimp only
  by_cases inside : 0 ≤ index ∧ index < signal.size
  · rw [if_pos inside, dif_pos inside]
    exact entry?_eq_some (by omega) _
  · rw [if_neg inside, dif_neg inside]
    cases mode with
    | zero => rfl
    | constant =>
      dsimp only
      split
      · exact entry?_eq_some rfl nonempty
      · exact entry?_eq_some (by omega) _
    | smooth =>
      dsimp only
      by_cases single : signal.size = 1
      · rw [if_pos (by omega), dif_pos single]
        exact entry?_eq_some rfl nonempty
      · rw [if_neg (by omega), dif_neg single]
        split
        · exact beyond?_eq_some (e := 0) (n := 1) _ rfl rfl nonempty (by omega)
        · have last : (signal.size : ℤ) - 1 = (signal.size - 1 : ℕ) := by omega
          rw [last]
          exact beyond?_eq_some _ rfl (by omega) (by omega) (by omega)
    | symmetric =>
      dsimp only
      have low : 0 ≤ index % (2 * signal.size) := Int.emod_nonneg index (by omega)
      have high : index % (2 * signal.size) < 2 * signal.size := Int.emod_lt_of_pos index (by omega)
      have period : ((2 * signal.size : ℕ) : ℤ) = 2 * signal.size := by omega
      unfold mirrored
      simp only [period]
      by_cases early : index % (2 * signal.size) < signal.size
      · rw [if_pos early, dif_pos (by omega)]
        exact entry?_eq_some (by omega) _
      · rw [if_neg early, dif_neg (by omega)]
        exact entry?_eq_some (by omega) _

/-- Reversal takes the reads past one edge to those past the other. -/
theorem sampleAt?_reverse (mode : Extension) (signal : Array ρ) (nonempty : 0 < signal.size) (index : ℤ) :
    mode.sampleAt? signal.reverse index = mode.sampleAt? signal (signal.size - 1 - index) := by
  unfold sampleAt?
  -- both sides now read the signal itself; left is that they take the same case and the same places
  simp only [Array.size_reverse, entry?_reverse, beyond?_reverse]
  by_cases inside : 0 ≤ index ∧ index < signal.size
  · have turned : 0 ≤ signal.size - 1 - index ∧ signal.size - 1 - index < signal.size := by omega
    rw [if_pos inside, if_pos turned]
  · have turned : ¬(0 ≤ signal.size - 1 - index ∧ signal.size - 1 - index < signal.size) := by omega
    rw [if_neg inside, if_neg turned]
    cases mode with
    | zero => rfl
    | constant =>
      dsimp only
      congr 1
      split <;> split <;> omega
    | smooth =>
      dsimp only
      split
      · next single => rw [single, sub_self, sub_zero]
      · have second : (signal.size : ℤ) - 1 - 1 = signal.size - 2 := by ring
        have first : (signal.size : ℤ) - 1 - (signal.size - 2) = 1 := by ring
        split
        · next before =>
          have steps : (signal.size : ℤ) - 1 - index - (signal.size - 1) = -index := by ring
          rw [if_neg (by omega), sub_zero, second, steps]
        · next after =>
          have steps : -((signal.size : ℤ) - 1 - index) = index - (signal.size - 1) := by ring
          rw [if_pos (by omega), sub_self, first, steps]
    | symmetric =>
      dsimp only
      rw [mirrored_reverse nonempty]

theorem symmetric_sampleAt? (signal : Array ρ) (index : ℤ) :
    symmetric.sampleAt? signal index = entry? signal (mirrored signal.size index) := by
  unfold sampleAt?
  dsimp only
  split
  · next inside => rw [mirrored_inside inside.1 inside.2]
  · rfl

theorem constant_sampleAt? (signal : Array ρ) (nonempty : 0 < signal.size) (index : ℤ) :
    constant.sampleAt? signal index = entry? signal (max 0 (min index (signal.size - 1))) := by
  unfold sampleAt?
  dsimp only
  split
  · congr 1
    omega
  · congr 1
    split <;> omega

/-! ## The extended signal -/

variable (signal : Array ρ) (nonempty : 0 < signal.size)

/-- The extension of a signal backwards is the extension of the signal, backwards. -/
theorem sampleAt_reverse (mode : Extension) (reversed : 0 < signal.reverse.size) (index : ℤ) :
    mode.sampleAt signal.reverse reversed index = mode.sampleAt signal nonempty (signal.size - 1 - index) := by
  apply Option.some.inj
  rw [← sampleAt?_eq, ← sampleAt?_eq, sampleAt?_reverse mode signal nonempty]

/-- Indices that see one place have one sample. -/
theorem symmetric_sampleAt_congr {i j : ℤ} (same : mirrored signal.size i = mirrored signal.size j) :
    symmetric.sampleAt signal nonempty i = symmetric.sampleAt signal nonempty j := by
  apply Option.some.inj
  rw [← sampleAt?_eq, ← sampleAt?_eq, symmetric_sampleAt?, symmetric_sampleAt?, same]

/-- The mirror image has the sample of a place whole periods away from that place and from its image. -/
theorem symmetric_sampleAt_seen {k : ℕ} (inside : k < signal.size) {index turns : ℤ}
    (seen : index = k + 2 * signal.size * turns ∨ index = -1 - k + 2 * signal.size * turns) :
    symmetric.sampleAt signal nonempty index = signal[k] := by
  rw [← sampleAt_inside symmetric signal nonempty k inside]
  apply symmetric_sampleAt_congr
  rw [mirrored_eq turns (by omega) (by omega) seen, mirrored_inside (by omega) (by omega)]

end Checked

/-! ## Steps past the edges -/

section Exact

variable [CommRing ρ] (signal : Array ρ) (two : 2 ≤ signal.size) (nonempty : 0 < signal.size)

include two

theorem smooth_sampleAt_before (steps : ℕ) :
    smooth.sampleAt signal nonempty (-steps) = signal[0] + steps * (signal[0] - signal[1]) := by
  cases steps with
  -- the definition takes no step from the edge; the formula does, and needs zero times the slope to vanish
  | zero => simpa using sampleAt_inside smooth signal nonempty 0 nonempty
  | succ k =>
    unfold sampleAt
    dsimp only
    rw [dif_neg (by omega), dif_neg (by omega), if_pos (by omega), neg_neg, Int.toNat_natCast]

theorem smooth_step_before (index : ℤ) (before : index ≤ 0) :
    smooth.sampleAt signal nonempty index - smooth.sampleAt signal nonempty (index - 1) = signal[1] - signal[0] := by
  obtain ⟨k, rfl⟩ : ∃ k : ℕ, index = -k := ⟨(-index).toNat, by omega⟩
  have further : (-k - 1 : ℤ) = -(k + 1 : ℕ) := by omega
  rw [further, smooth_sampleAt_before signal two, smooth_sampleAt_before signal two]
  push_cast
  ring

/-- Past the last sample the steps are those before the first one of the signal backwards. -/
theorem smooth_step_after (index : ℤ) (after : signal.size - 1 ≤ index) :
    smooth.sampleAt signal nonempty (index + 1) - smooth.sampleAt signal nonempty index =
      signal[signal.size - 1] - signal[signal.size - 2] := by
  have turned : 2 ≤ signal.reverse.size := by rwa [Array.size_reverse]
  have step := smooth_step_before signal.reverse turned (by omega) (signal.size - 1 - index) (by omega)
  have here : (signal.size : ℤ) - 1 - (signal.size - 1 - index) = index := by ring
  have next : (signal.size : ℤ) - 1 - (signal.size - 1 - index - 1) = index + 1 := by ring
  rw [sampleAt_reverse signal nonempty, sampleAt_reverse signal nonempty, here, next, Array.getElem_reverse,
    Array.getElem_reverse] at step
  rw [← neg_sub, step, neg_sub]
  rfl

end Exact

/-! ## All indices -/

/-- The extended signal at every whole index. No read falls outside of the signal, inside the extension is the signal,
and the extension of a signal backwards is the extension backwards, whatever the arithmetic. The mirror image repeats
after twice the length of the signal and is its own image at the edge, so that it has the sample of a place whole
periods away from that place and from its image, however often a window goes around. The constant extension has the
sample at the nearest index. In exact arithmetic the smooth extension of two samples or more goes on past each edge by
equal steps, those from one to the other of the two samples there. -/
theorem sampleAt_past_edges [Add ρ] [Sub ρ] [Mul ρ] [Zero ρ] [NatCast ρ] (mode : Extension) (signal : Array ρ)
    (nonempty : 0 < signal.size) :
    (∀ i : ℤ, mode.sampleAt? signal i = some (mode.sampleAt signal nonempty i)) ∧
    (∀ k (inside : k < signal.size), mode.sampleAt signal nonempty k = signal[k]) ∧
    (∀ i : ℤ, mode.sampleAt signal.reverse (by rwa [Array.size_reverse]) i =
      mode.sampleAt signal nonempty (signal.size - 1 - i)) ∧
    (Function.Periodic (symmetric.sampleAt signal nonempty) (2 * signal.size) ∧
      (∀ i : ℤ, symmetric.sampleAt signal nonempty (-1 - i) = symmetric.sampleAt signal nonempty i) ∧
      ∀ k (inside : k < signal.size) (turns : ℤ),
        symmetric.sampleAt signal nonempty (k + 2 * signal.size * turns) = signal[k] ∧
        symmetric.sampleAt signal nonempty (-1 - k + 2 * signal.size * turns) = signal[k]) ∧
    (∀ i : ℤ, entry? signal (max 0 (min i (signal.size - 1))) = some (constant.sampleAt signal nonempty i)) ∧
    ∀ {K : Type} [CommRing K] (samples : Array K) (two : 2 ≤ samples.size),
      (∀ i : ℤ, i ≤ 0 → smooth.sampleAt samples (by omega) i - smooth.sampleAt samples (by omega) (i - 1) =
        samples[1] - samples[0]) ∧
      ∀ i : ℤ, samples.size - 1 ≤ i →
        smooth.sampleAt samples (by omega) (i + 1) - smooth.sampleAt samples (by omega) i =
          samples[samples.size - 1] - samples[samples.size - 2] := by
  refine ⟨sampleAt?_eq mode signal nonempty, sampleAt_inside mode signal nonempty,
    sampleAt_reverse signal nonempty mode _, ⟨fun i => ?_, fun i => ?_, fun k inside turns => ?_⟩,
    fun i => ?_, fun samples two => ⟨fun i before => ?_, fun i after => ?_⟩⟩
  · exact symmetric_sampleAt_congr signal nonempty (mirrored_period nonempty i)
  · exact symmetric_sampleAt_congr signal nonempty (mirrored_image nonempty i)
  · exact ⟨symmetric_sampleAt_seen signal nonempty inside (.inl rfl),
      symmetric_sampleAt_seen signal nonempty inside (.inr rfl)⟩
  · rw [← constant_sampleAt? signal nonempty, sampleAt?_eq]
  · exact smooth_step_before samples two _ i before
  · exact smooth_step_after samples two _ i after

/-- Three samples, seven times around the mirror image and a hundred steps past the edges. -/
theorem sampleAt_past_edges_wrapped :
    0 < (#[1, 2, 4] : Array Float).size ∧ 2 ≤ (#[1, 2, 4] : Array ℤ).size ∧
    smooth.sampleAt? (#[1, 2, 4] : Array Float) (-100) =
      some (smooth.sampleAt (#[1, 2, 4] : Array Float) (by decide) (-100)) ∧
    smooth.sampleAt (#[1, 2, 4] : Array Float).reverse (by rw [Array.size_reverse]; decide) (-100) =
      smooth.sampleAt (#[1, 2, 4] : Array Float) (by decide) 102 ∧
    symmetric.sampleAt (#[1, 2, 4] : Array Float) (by decide) (-44) = 2 ∧
    constant.sampleAt (#[1, 2, 4] : Array Float) (by decide) 100 = 4 ∧
    smooth.sampleAt (#[1, 2, 4] : Array ℤ) (by decide) (-99) -
      smooth.sampleAt (#[1, 2, 4] : Array ℤ) (by decide) (-100) = 1 ∧
    smooth.sampleAt (#[1, 2, 4] : Array ℤ) (by decide) 101 -
      smooth.sampleAt (#[1, 2, 4] : Array ℤ) (by decide) 100 = 2 := by
  obtain ⟨reads, -, turned, ⟨-, -, around⟩, nearest, steps⟩ :=
    sampleAt_past_edges .smooth (#[1, 2, 4] : Array Float) (by decide)
  obtain ⟨before, after⟩ := steps (#[1, 2, 4] : Array ℤ) (by decide)
  refine ⟨by decide, by decide, reads (-100), turned (-100), ?_, ?_, before (-99) (by decide),
    after 100 (by decide)⟩
  · exact (around 1 (by decide) (-7)).2
  · exact (Option.some.inj (nearest 100)).symm

end Extension

end BufferScope.Wavelet
