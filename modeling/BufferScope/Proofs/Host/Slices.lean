/-
How a run cuts a channel into buffers. The slices, joined in order, are the channel cut to the frames
of the run or followed by silence up to them, wherever the channel ends.
-/
import BufferScope.Host
import BufferScope.Proofs.Blocks

namespace BufferScope

variable {σ ρ : Type} [Sample ρ σ]

/-- The samples of a channel up to `frames`; silence follows its end. -/
def fitted (ρ : Type) {σ : Type} [Sample ρ σ] (channel : Array σ) (frames : Nat) : List σ :=
  channel.toList.take frames ++ List.replicate (frames - channel.size) (Sample.silence ρ)

@[simp] theorem length_fitted (channel : Array σ) (frames : Nat) : (fitted ρ channel frames).length = frames := by
  unfold fitted
  rw [List.length_append, List.length_take, List.length_replicate, Array.length_toList]
  omega

theorem getElem?_fitted (channel : Array σ) (frames k : Nat) :
    (fitted ρ channel frames)[k]? = if k < frames then some (channel[k]?.getD (Sample.silence ρ)) else none := by
  by_cases inside : k < frames
  · rw [if_pos inside]
    unfold fitted
    by_cases h : k < channel.size
    · rw [List.getElem?_append_left (by rw [List.length_take, Array.length_toList]; omega),
        List.getElem?_take_of_lt inside, Array.getElem?_toList, Array.getElem?_eq_getElem h]
      rfl
    · rw [List.getElem?_append_right (by rw [List.length_take, Array.length_toList]; omega), List.length_take,
        Array.length_toList, List.getElem?_replicate, if_pos (by omega), Array.getElem?_eq_none (by omega)]
      rfl
  · rw [if_neg inside, List.getElem?_eq_none (by rw [length_fitted]; omega)]

/-- What a channel gets of a signal is that signal, fitted to the channel. -/
theorem Audio.toList_aligned (signal : Array ρ) (length : Nat) :
    (aligned signal length : Array σ).toList = fitted ρ (signal.map (Sample.narrow : ρ → σ)) length := by
  apply List.ext_getElem?
  intro k
  rw [Array.getElem?_toList, getElem?_fitted, Array.getElem?_map]
  unfold aligned
  rw [Array.getElem?_ofFn]
  split
  · rw [Option.some_inj]
    split
    · rename_i h
      rw [Array.getElem?_eq_getElem h]
      rfl
    · rename_i h
      rw [Array.getElem?_eq_none (Nat.le_of_not_lt h)]
      rfl
  · rfl

@[simp] theorem size_sliceOf (channel : Array σ) (offset length : Nat) :
    (sliceOf ρ channel offset length).size = length := Array.size_ofFn

theorem getElem?_sliceOf (channel : Array σ) (offset length k : Nat) :
    (sliceOf ρ channel offset length)[k]? =
      if k < length then some (channel[offset + k]?.getD (Sample.silence ρ)) else none := by
  unfold sliceOf
  rw [Array.getElem?_ofFn]
  split
  · rename_i inside
    rw [Option.some_inj]
    split
    · rename_i h
      rw [Array.getElem?_eq_getElem h]
      rfl
    · rename_i h
      rw [Array.getElem?_eq_none (Nat.le_of_not_lt h)]
      rfl
  · rfl

/-- What is cut out of a channel without its beginning lies that much further on in the channel. -/
theorem sliceOf_drop (channel : Array σ) (begin offset length : Nat) :
    sliceOf ρ (channel.drop begin) offset length = sliceOf ρ channel (begin + offset) length := by
  have rest : ∀ i, (channel.drop begin)[i]? = channel[begin + i]? := by
    intro i
    rw [Array.drop, Array.getElem?_extract, min_self]
    split
    · rfl
    · rw [Array.getElem?_eq_none (by omega)]
  apply Array.ext_getElem?
  intro k
  rw [getElem?_sliceOf, getElem?_sliceOf, rest, Nat.add_assoc]

/-- A buffer holds samples of the channel and silence. -/
theorem mem_sliceOf {channel : Array σ} {offset length : Nat} {s : σ}
    (member : s ∈ sliceOf ρ channel offset length) :
    s ∈ channel ∨ s = Sample.silence ρ := by
  obtain ⟨k, rfl⟩ := Array.mem_ofFn.mp member
  split
  · exact .inl (Array.getElem_mem _)
  · exact .inr rfl

/-- A buffer holds a stretch of the fitted channel, whether the channel ends before it, in it or
after it. -/
theorem toList_sliceOf (channel : Array σ) (frames size offset : Nat) :
    (sliceOf ρ channel offset (min size (frames - offset))).toList =
      ((fitted ρ channel frames).drop offset).take size := by
  apply List.ext_getElem?
  intro k
  rw [Array.getElem?_toList, getElem?_sliceOf, List.getElem?_take, List.getElem?_drop, getElem?_fitted]
  by_cases near : k < size
  · by_cases inside : offset + k < frames
    · rw [if_pos (by omega), if_pos near, if_pos inside]
    · rw [if_neg (by omega), if_pos near, if_neg inside]
  · rw [if_neg (by omega), if_neg near]

/-- The buffers of a run hold the fitted channel, each sample once and in order. -/
theorem flatMap_sliceOf (channel : Array σ) {size : Nat} (positive : 0 < size) (frames : Nat) :
    ((List.range (frames ⌈/⌉ size)).flatMap fun j =>
      (sliceOf ρ channel (j * size) (min size (frames - j * size))).toList) = fitted ρ channel frames := by
  simp only [toList_sliceOf]
  rw [flatMap_stretches]
  exact List.take_of_length_le ((length_fitted (ρ := ρ) channel frames).trans_le (le_ceilDiv_mul positive frames))

end BufferScope
