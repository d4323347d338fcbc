/-
Frames and channels: samples laid out frame by frame split into the channels that they came from, for
every number of channels but zero and every common length (`deinterleave_interleave`).
-/
import BufferScope.Proofs.Blocks
import BufferScope.Wave.Clip

namespace BufferScope.Wave

variable {α : Type}

/-! ## Frames -/

variable {channels : List (Array α)} {frames : ℕ}

theorem filterMap_frame (even : ∀ c ∈ channels, c.size = frames) {k : ℕ} (inside : k < frames) :
    (channels.filterMap (·[k]?)).map some = channels.map (·[k]?) := by
  induction channels with
  | nil => rfl
  | cons first rest ih =>
    have here : k < first.size := (even first List.mem_cons_self).symm ▸ inside
    rw [List.filterMap_cons, Array.getElem?_eq_getElem here, List.map_cons, List.map_cons,
      ih fun c later => even c (List.mem_cons_of_mem _ later), Array.getElem?_eq_getElem here]

theorem length_frame (even : ∀ c ∈ channels, c.size = frames) {k : ℕ} (inside : k < frames) :
    (channels.filterMap (·[k]?)).length = channels.length := by
  simpa using congrArg List.length (filterMap_frame even inside)

theorem length_interleave (even : ∀ c ∈ channels, c.size = frames) :
    (interleave channels frames).length = frames * channels.length :=
  length_flatMap_range fun _ inside => length_frame even inside

/-- Where a sample lies among the frames. -/
theorem getElem?_interleave (even : ∀ c ∈ channels, c.size = frames) {k c : ℕ} (frame : k < frames)
    (inside : c < channels.length) : (interleave channels frames)[k * channels.length + c]? = channels[c][k]? := by
  unfold interleave
  rw [getElem?_flatMap_range (fun k below => length_frame even below) frame inside]
  have same := congrArg (·[c]?) (filterMap_frame even frame)
  simp only [List.getElem?_map, List.getElem?_eq_getElem inside] at same
  obtain ⟨sample, there, held⟩ := Option.map_eq_some_iff.mp same
  rw [there, held]

/-- Channels of one length are split off as they were laid out. -/
theorem deinterleave_interleave (nonempty : channels ≠ []) (even : ∀ c ∈ channels, c.size = frames) :
    deinterleave channels.length (interleave channels frames).toArray = channels := by
  have positive : 0 < channels.length := List.length_pos_iff.mpr nonempty
  have length : (interleave channels frames).toArray.size / channels.length = frames := by
    rw [List.size_toArray, length_interleave even, Nat.mul_div_cancel _ positive]
  unfold deinterleave
  apply List.ext_getElem
  · exact List.length_ofFn
  intro c _ inside
  have sized : channels[c].size = frames := even _ (List.getElem_mem inside)
  rw [List.getElem_ofFn]
  apply Array.ext
  · rw [Array.size_ofFn, length, sized]
  intro k _ low
  have found := getElem?_interleave even (sized ▸ low) inside
  rw [Array.getElem?_eq_getElem low] at found
  obtain ⟨_, here⟩ := List.getElem?_eq_some_iff.mp found
  rw [Array.getElem_ofFn]
  exact here

theorem longest_eq (nonempty : channels ≠ []) (even : ∀ c ∈ channels, c.size = frames) :
    longest channels = frames := by
  have settled : ∀ rest : List (Array α), (∀ c ∈ rest, c.size = frames) →
      rest.foldl (fun most c => max most c.size) frames = frames := by
    intro rest
    induction rest with
    | nil => exact fun _ => rfl
    | cons c rest ih =>
      intro even
      rw [List.foldl_cons, even c List.mem_cons_self, max_self]
      exact ih fun d later => even d (List.mem_cons_of_mem _ later)
  obtain ⟨first, rest, rfl⟩ := List.exists_cons_of_ne_nil nonempty
  unfold longest
  rw [List.foldl_cons, even first List.mem_cons_self, Nat.zero_max]
  exact settled rest fun c later => even c (List.mem_cons_of_mem _ later)

end BufferScope.Wave
