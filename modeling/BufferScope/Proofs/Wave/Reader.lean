/-
What reading a sound file ensures, whatever the bytes: its format has a channel, and so the clip that is
decoded has one.
-/
import BufferScope.Proofs.Wave.RoundTrip

namespace BufferScope

/-! ## Results -/

section Results

variable {ε ε' α β : Type}

theorem bind_eq_ok {x : Except ε α} {next : α → Except ε β} {b : β} :
    x >>= next = .ok b ↔ ∃ a, x = .ok a ∧ next a = .ok b := by
  cases x with
  | error e => simp [bind, Except.bind]
  | ok a => simp [bind, Except.bind]

theorem mapError_eq_ok {x : Except ε α} {f : ε → ε'} {a : α} : x.mapError f = .ok a ↔ x = .ok a := by
  cases x with
  | error e => simp [Except.mapError]
  | ok a => simp [Except.mapError]

end Results

namespace Wave

/-! ## Readers that ensure a property -/

namespace Reader

variable {α β : Type} {property : α → Prop} {goal : β → Prop}

/-- Every value that the reader gives has the property. -/
def Ensures (property : α → Prop) (reader : Reader α) : Prop :=
  ∀ bytes value rest, reader bytes = .ok (value, rest) → property value

theorem ensures_pure {value : α} (fine : property value) : Ensures property (pure value) := by
  rintro bytes _ _ ⟨⟩
  exact fine

theorem ensures_throw (error : AudioError) : Ensures property (throw error) := by
  rintro bytes _ _ ⟨⟩

theorem ensures_true (reader : Reader α) : Ensures (fun _ => True) reader := fun _ _ _ _ => trivial

theorem ensures_refuse (condition : Prop) [Decidable condition] (fault : WaveFault) :
    Ensures (fun _ => ¬condition) (refuse condition fault) := by
  unfold refuse
  split
  · exact ensures_throw _
  · rename_i fine
    exact ensures_pure fine

/-- What the first reader ensures may be used of the value that the next one is made of. -/
theorem Ensures.bind {first : Reader α} {next : α → Reader β} (ensures : Ensures property first)
    (follows : ∀ value, property value → Ensures goal (next value)) : Ensures goal (first >>= next) := by
  intro bytes result rest read
  rcases ended : first bytes with error | ⟨value, left⟩
  · have failed : (first >>= next) bytes = .error error := by
      show Except.bind (first bytes) _ = _
      rw [ended]
      rfl
    cases failed.symm.trans read
  · rw [bind_of_ok ended] at read
    exact follows value (ensures _ _ _ ended) _ _ _ read

theorem ensures_bind {first : Reader α} {next : α → Reader β} (follows : ∀ value, Ensures goal (next value)) :
    Ensures goal (first >>= next) := (ensures_true first).bind fun value _ => follows value

end Reader

open Reader

/-! ## The format -/

/-- No end of a format chunk changes the number of channels. -/
theorem ensures_integerTail (size : Nat) (f : Format) :
    Ensures (fun format => format.channels = f.channels) (integerTail size f) := by
  unfold integerTail
  split
  · exact ensures_pure rfl
  · exact ensures_bind fun _ => ensures_bind fun _ => ensures_pure rfl
  · exact ensures_bind fun _ => ensures_bind fun _ => ensures_bind fun _ => ensures_pure rfl
  · exact ensures_throw _

theorem ensures_floatTail (size : Nat) (f : Format) :
    Ensures (fun format => format.channels = f.channels) (floatTail size f) := by
  unfold floatTail
  refine ensures_bind fun _ => ?_
  split
  · exact ensures_bind fun _ => ensures_bind fun _ => ensures_bind fun _ => ensures_pure rfl
  · exact ensures_bind fun _ => ensures_pure rfl

theorem ensures_extensibleTail (size : Nat) (f : Format) :
    Ensures (fun format => format.channels = f.channels) (extensibleTail size f) := by
  unfold extensibleTail
  refine ensures_bind fun _ => ensures_bind fun _ => ensures_bind fun _ => ensures_bind fun _ =>
    ensures_bind fun _ => ensures_bind fun guid => ?_
  dsimp only
  by_cases integer : guid = Encoding.integer.guid
  · rw [if_pos integer]
    exact ensures_pure rfl
  rw [if_neg integer]
  by_cases float : guid = Encoding.float.guid
  · rw [if_pos float]
    exact ensures_pure rfl
  · rw [if_neg float]
    exact ensures_throw _

theorem ensures_readFormat (size : Nat) : Ensures (fun format => 0 < format.channels) (readFormat size) := by
  unfold readFormat
  refine ensures_bind fun _ => ensures_bind fun _ => ensures_bind fun channels => ensures_bind fun _ =>
    ensures_bind fun _ => ensures_bind fun _ => ensures_bind fun _ => ?_
  refine (ensures_refuse _ _).bind fun _ some => ?_
  refine ensures_bind fun _ => ensures_bind fun _ => ensures_bind fun _ => ensures_bind fun _ => ?_
  have kept : ∀ {tail : Reader Format}, Ensures (fun format => format.channels = channels) tail →
      Ensures (fun format => 0 < format.channels) tail := by
    intro tail ensures bytes format rest read
    rw [ensures bytes format rest read]
    exact Nat.pos_of_ne_zero some
  dsimp only
  split
  · exact kept (ensures_integerTail _ _)
  · exact kept (ensures_floatTail _ _)
  · exact kept (ensures_extensibleTail _ _)
  · exact ensures_throw _

/-! ## The whole file -/

theorem ensures_readChunks (fuel : Nat) : ∀ format? : Option Format, (∀ format ∈ format?, 0 < format.channels) →
    Ensures (fun header => 0 < header.format.channels) (readChunks fuel format?) := by
  induction fuel with
  | zero => exact fun _ _ => ensures_throw _
  | succ fuel ih =>
    intro format? known
    rw [readChunks]
    refine ensures_bind fun tag => ensures_bind fun size => ?_
    split
    · exact (ensures_readFormat size).bind fun format channels =>
        ih _ fun _ same => Option.some_inj.mp same ▸ channels
    split
    · exact ensures_bind fun _ => ih _ known
    split
    · cases format? with
      | none => exact ensures_throw _
      | some format => exact ensures_bind fun _ => ensures_bind fun _ => ensures_pure (known format rfl)
    · exact ensures_bind fun _ => ih _ known

theorem ensures_readHeader : Ensures (fun header => 0 < header.format.channels) readHeader := by
  unfold readHeader
  refine ensures_bind fun _ => ensures_bind fun _ => ensures_bind fun _ => ensures_bind fun _ =>
    ensures_bind fun _ => ensures_bind fun left => ?_
  exact ensures_readChunks _ none fun _ none => nomatch none

/-- A clip that is loaded has a channel, if not a sample. -/
theorem channels_ne_nil_of_load {files : FileTree} {path : String} {clip : Clip}
    (loaded : (load files path).value = .ok clip) : clip.channels ≠ [] := by
  rw [value_load] at loaded
  obtain ⟨bytes, -, read⟩ := bind_eq_ok.mp loaded
  obtain ⟨⟨header, rest⟩, headed, decoded⟩ := bind_eq_ok.mp read
  obtain ⟨samples, -, same⟩ := bind_eq_ok.mp decoded
  cases same
  apply List.ne_nil_of_length_pos
  show 0 < (List.ofFn _).length
  rw [List.length_ofFn]
  exact ensures_readHeader _ _ _ headed

end Wave

end BufferScope
