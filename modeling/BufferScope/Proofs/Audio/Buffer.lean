/-
Which input is accepted, for what fault it is refused otherwise, and what fanning a signal out leaves
in the channels, apart from what it logs.
-/
import BufferScope.Audio.Buffer

namespace BufferScope.Audio

variable {σ ρ : Type} [Sample ρ σ]

/-! ## Input -/

/-- What is wrong with the channels that a transforming effect is handed. A fault that comes later
counts only where those before it are absent, and of the samples that are not finite the first. -/
inductive InputFault (ρ : Type) {σ : Type} [Sample ρ σ] : List (Array σ) → AudioError → Prop
  | noChannels : InputFault ρ [] (.input .noInputChannels)
  | empty {channel : Array σ} (rest : List (Array σ)) (noSamples : channel.size = 0) :
    InputFault ρ (channel :: rest) (.input .emptyInput)
  | nonFinite {channel : Array σ} (rest : List (Array σ)) (i : Nat) (inside : i < channel.size)
    (here : Sample.isFinite ρ channel[i] = false)
    (first : ∀ j (earlier : j < i), Sample.isFinite ρ channel[j] = true) :
    InputFault ρ (channel :: rest) (.transform (.nonFinite (Sample.shown ρ channel[i]) i))

/-- Samples are refused for the first that is not finite, or all are finite. -/
theorem ensureFinite_cases (samples : Array σ) :
    (ensureFinite ρ samples = .ok () ∧ ∀ s ∈ samples, Sample.isFinite ρ s = true) ∨
    ∃ (i : Nat) (inside : i < samples.size), Sample.isFinite ρ samples[i] = false ∧
      (∀ j (earlier : j < i), Sample.isFinite ρ samples[j] = true) ∧
      ensureFinite ρ samples = .error (.transform (.nonFinite (Sample.shown ρ samples[i]) i)) := by
  unfold ensureFinite
  split
  · rename_i none
    rw [Array.findIdx?_eq_none_iff] at none
    exact .inl ⟨rfl, fun s member => by simpa using none s member⟩
  · rename_i i found
    obtain ⟨inside, here, first⟩ := Array.findIdx?_eq_some_iff_getElem.mp found
    exact .inr ⟨i, inside, by simpa using here, fun j earlier => by simpa using first j earlier, rfl⟩

/-- Which input is accepted depends on the first channel alone. -/
theorem acceptedInput_cons (channel : Array σ) (rest : List (Array σ)) :
    acceptedInput ρ (channel :: rest) =
      if channel.size = 0 then .error (.input .emptyInput) else (ensureFinite ρ channel).map fun _ => channel := by
  have first : firstInput (channel :: rest) =
      if channel.size = 0 then .error (.input .emptyInput) else .ok channel := by
    unfold firstInput
    simp only [Array.isEmpty_iff_size_eq_zero]
  unfold acceptedInput
  rw [first]
  split
  · rfl
  · rfl

theorem acceptedInput_congr {inputs others : List (Array σ)} (same : inputs.head? = others.head?) :
    acceptedInput ρ inputs = acceptedInput ρ others := by
  rcases inputs with _ | ⟨channel, rest⟩ <;> rcases others with _ | ⟨other, rest'⟩
  · rfl
  · cases same
  · cases same
  · cases same
    rw [acceptedInput_cons, acceptedInput_cons]

/-- Input channels have a fault, for which they are refused, or a first channel with samples, all
finite, which is accepted. -/
theorem acceptedInput_cases (inputs : List (Array σ)) :
    (∃ error, InputFault ρ inputs error ∧ acceptedInput ρ inputs = .error error) ∨
    ∃ channel rest, inputs = channel :: rest ∧ 0 < channel.size ∧
      (∀ s ∈ channel, Sample.isFinite ρ s = true) ∧
      acceptedInput ρ inputs = .ok channel := by
  rcases inputs with _ | ⟨channel, rest⟩
  · exact .inl ⟨_, .noChannels, rfl⟩
  rw [acceptedInput_cons]
  split
  · rename_i noSamples
    exact .inl ⟨_, .empty rest noSamples, rfl⟩
  · rename_i samples
    rcases ensureFinite_cases (ρ := ρ) channel with ⟨ok, finite⟩ | ⟨i, inside, here, first, refused⟩
    · exact .inr ⟨channel, rest, rfl, Nat.pos_of_ne_zero samples, finite, by rw [ok]; rfl⟩
    · exact .inl ⟨_, .nonFinite rest i inside here first, by rw [refused]; rfl⟩

/-- Input channels are refused for the fault that they have. -/
theorem acceptedInput_eq_error_iff {inputs : List (Array σ)} {error : AudioError} :
    acceptedInput ρ inputs = .error error ↔ InputFault ρ inputs error := by
  constructor
  · intro refused
    obtain ⟨cause, fault, same⟩ | ⟨channel, rest, -, -, -, accepted⟩ := acceptedInput_cases (ρ := ρ) inputs
    · cases refused.symm.trans same
      exact fault
    · cases refused.symm.trans accepted
  · intro fault
    cases fault with
    | noChannels => rfl
    | empty rest noSamples => rw [acceptedInput_cons, if_pos noSamples]
    | @nonFinite channel rest i inside here first =>
      rw [acceptedInput_cons, if_neg (by omega)]
      obtain ⟨-, finite⟩ | ⟨j, inside', here', first', refused⟩ := ensureFinite_cases (ρ := ρ) channel
      · rw [finite _ (Array.getElem_mem inside)] at here
        cases here
      · -- neither of two first samples comes before the other
        obtain before | rfl | after := Nat.lt_trichotomy i j
        · rw [first' i before] at here
          cases here
        · rw [refused]
          rfl
        · rw [first j after] at here'
          cases here'

/-- A first channel with samples, all finite, is accepted, whatever the others hold. -/
theorem acceptedInput_of_finite {channel : Array σ} (rest : List (Array σ)) (nonempty : 0 < channel.size)
    (finite : ∀ s ∈ channel, Sample.isFinite ρ s = true) : acceptedInput ρ (channel :: rest) = .ok channel := by
  obtain ⟨error, fault, -⟩ | ⟨_, _, same, -, -, accepted⟩ := acceptedInput_cases (ρ := ρ) (channel :: rest)
  · cases fault with
    | empty _ noSamples => omega
    | nonFinite _ i inside here _ =>
      rw [finite _ (Array.getElem_mem inside)] at here
      cases here
  · cases same
    exact accepted

/-! ## Output -/

@[simp] theorem size_aligned (signal : Array ρ) (length : Nat) : (aligned signal length : Array σ).size = length :=
  Array.size_ofFn

/-- A channel holds the signal as far as both go. -/
theorem getElem?_aligned {signal : Array ρ} {length k : Nat} (inside : k < length) (reached : k < signal.size) :
    (aligned signal length)[k]? = some (Sample.narrow signal[k]) := by
  unfold aligned
  rw [Array.getElem?_ofFn, dif_pos inside]
  simp only [dif_pos reached]

theorem firstOutputLength_congr {outputs others : List (Array σ)}
    (same : outputs.map Array.size = others.map Array.size) : firstOutputLength outputs = firstOutputLength others := by
  rcases outputs with _ | ⟨channel, rest⟩ <;> rcases others with _ | ⟨other, rest'⟩
  · rfl
  · cases same
  · cases same
  · exact congrArg Except.ok (List.cons.inj same).1

/-- What a channel gets depends on its length alone. -/
theorem map_aligned_congr (signal : Array ρ) {outputs others : List (Array σ)}
    (same : outputs.map Array.size = others.map Array.size) :
    (outputs.map fun channel => aligned signal channel.size) =
    others.map fun channel => aligned signal channel.size := by
  have lengths := congrArg (List.map (aligned signal)) same
  rwa [List.map_map, List.map_map] at lengths

theorem value_fanOutFrom (signal : Array ρ) (index : Nat) (outputs : List (Array σ)) :
    (fanOutFrom signal index outputs).value = outputs.map fun channel => aligned signal channel.size := by
  induction outputs generalizing index with
  | nil => rfl
  | cons channel rest ih =>
    unfold fanOutFrom
    simp only [Logged.value_bind, Logged.value_pure, ih, List.map_cons]

/-- Every channel gets the signal, fitted to the channel's own length. -/
theorem value_fanOut (outputs : List (Array σ)) (signal : Array ρ) :
    (fanOut outputs signal).value = outputs.map fun channel => aligned signal channel.size :=
  value_fanOutFrom signal 0 outputs

end BufferScope.Audio
