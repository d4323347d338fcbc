/-
The header of a sound file, read back: from the bytes that are written before the samples a reader
learns the channels, the rate, the format and the number of samples (`readHeader_headerBytes`), as long
as the numbers fit their fields.
-/
import Mathlib.Tactic
import BufferScope.Wave.Writer

namespace BufferScope.Wave

/-! ## Reading from the front -/

section Front

variable {α β : Type} {bytes rest : List UInt8}

/-- A reader goes on with what the one before it left. -/
theorem bind_of_ok {reader : Reader α} {value : α} (read : reader bytes = .ok (value, rest))
    (next : α → Reader β) :
    (reader >>= next) bytes = next value rest := by
  show Except.bind (reader bytes) _ = _
  rw [read]
  rfl

theorem take_append (front rest : List UInt8) : take front.length (front ++ rest) = .ok (front, rest) := by
  unfold take
  rw [List.take_left, List.drop_left, if_pos rfl]

theorem skip_append (front rest : List UInt8) : skip front.length (front ++ rest) = .ok ((), rest) :=
  bind_of_ok (take_append front rest) _

theorem number_append {width n : Nat} (fits : n < Nat.pow 256 width) (rest : List UInt8) :
    number width (bytesOf width n ++ rest) = .ok (n, rest) := by
  have taken := take_append (bytesOf width n) rest
  rw [length_bytesOf] at taken
  refine (bind_of_ok taken _).trans ?_
  rw [valueOf_bytesOf, Nat.mod_eq_of_lt fits]
  rfl

theorem refuse_of_not {condition : Prop} [Decidable condition] (fine : ¬condition) (fault : WaveFault) :
    refuse condition fault bytes = .ok ((), bytes) := by
  unfold refuse
  rw [if_neg fine]
  rfl

end Front

/-! ## The format -/

/-- The format of a file with floating-point samples. -/
def floatFormat (channels sampleRate : Nat) : Format := ⟨channels, sampleRate, 32, 4, .float⟩

/-- The bytes of the format chunk, after its tag and its size. -/
def formatBytes (sampleRate channels : Nat) : List UInt8 :=
  bytesOf 2 0xfffe ++ (bytesOf 2 channels ++ (bytesOf 4 sampleRate
    ++ (bytesOf 4 (4 * channels * sampleRate) ++ (bytesOf 2 (4 * channels) ++ (bytesOf 2 32
    ++ (bytesOf 2 22 ++ (bytesOf 2 32 ++ (bytesOf 4 (speakerMask channels) ++ Encoding.float.guid))))))))

/-- The extensible end of the chunk says that the samples are floating-point ones of 32 bits. -/
theorem extensibleTail_append (f : Format) (mask : Nat) (rest : List UInt8) :
    extensibleTail 40 f (bytesOf 2 22 ++ (bytesOf 2 32 ++ (bytesOf 4 mask ++ (Encoding.float.guid ++ rest)))) =
      .ok ({ f with bits := 32, encoding := .float }, rest) := by
  have passed := skip_append (bytesOf 4 mask) (Encoding.float.guid ++ rest)
  rw [length_bytesOf] at passed
  have guid : take 16 (Encoding.float.guid ++ rest) = .ok (Encoding.float.guid, rest) :=
    take_append Encoding.float.guid rest
  unfold extensibleTail
  rw [bind_of_ok (refuse_of_not (by decide) _), bind_of_ok (number_append (by decide) _),
    bind_of_ok (refuse_of_not (by decide) _), bind_of_ok (number_append (by decide) _), bind_of_ok passed,
    bind_of_ok guid]
  rfl

theorem readFormat_formatBytes {sampleRate channels : Nat} (positive : 0 < channels) (frame : 4 * channels < 2 ^ 16)
    (rate : sampleRate < 2 ^ 32) (speed : 4 * channels * sampleRate < 2 ^ 32) (rest : List UInt8) :
    readFormat 40 (formatBytes sampleRate channels ++ rest) = .ok (floatFormat channels sampleRate, rest) := by
  have word : Nat.pow 256 2 = 2 ^ 16 := rfl
  have double : Nat.pow 256 4 = 2 ^ 32 := rfl
  have width : 4 * channels / channels = 4 := Nat.mul_div_cancel _ positive
  unfold readFormat formatBytes
  simp only [List.append_assoc]
  rw [bind_of_ok (refuse_of_not (by decide) _), bind_of_ok (number_append (by decide) _),
    bind_of_ok (number_append (by omega) _), bind_of_ok (number_append (by omega) _),
    bind_of_ok (number_append (by omega) _), bind_of_ok (number_append (by omega) _),
    bind_of_ok (number_append (by decide) _), bind_of_ok (refuse_of_not (by omega) _)]
  rw [bind_of_ok (refuse_of_not (by rw [width]; decide) _), bind_of_ok (refuse_of_not (fun differs => differs rfl) _),
    bind_of_ok (refuse_of_not (by decide) _), bind_of_ok (refuse_of_not (by decide) _), width]
  exact extensibleTail_append _ _ _

/-! ## The chunks -/

/-- The number of samples in a data chunk that floating-point frames fill. -/
theorem ofData_floatFormat (channels sampleRate frames : Nat) (rest : List UInt8) :
    Header.ofData (floatFormat channels sampleRate) (4 * (frames * channels)) rest =
      .ok (⟨floatFormat channels sampleRate, frames * channels⟩, rest) := by
  have samples : 4 * (frames * channels) / 4 = frames * channels := Nat.mul_div_cancel_left _ (by decide)
  unfold Header.ofData floatFormat
  dsimp only
  rw [samples, bind_of_ok (refuse_of_not (by omega) _),
    bind_of_ok (refuse_of_not (fun uneven => uneven (Nat.mul_mod_left frames channels)) _)]
  rfl

theorem take_tag {tag : String} (four : (tagBytes tag).length = 4) (rest : List UInt8) :
    take 4 (tagBytes tag ++ rest) = .ok (tagBytes tag, rest) := four ▸ take_append _ _

theorem readChunks_format {sampleRate channels : Nat} (positive : 0 < channels) (frame : 4 * channels < 2 ^ 16)
    (rate : sampleRate < 2 ^ 32) (speed : 4 * channels * sampleRate < 2 ^ 32) (fuel : Nat) (format? : Option Format)
    (rest : List UInt8) :
    readChunks (fuel + 1) format? (tagBytes "fmt " ++ (bytesOf 4 40 ++ (formatBytes sampleRate channels ++ rest))) =
      readChunks fuel (some (floatFormat channels sampleRate)) rest := by
  rw [readChunks]
  rw [bind_of_ok (take_tag (by decide) _), bind_of_ok (number_append (by decide) _), if_pos rfl,
    bind_of_ok (readFormat_formatBytes positive frame rate speed rest)]

theorem readChunks_data (fuel : Nat) (format : Format) {size : Nat} (fits : size < 2 ^ 32) (rest : List UInt8) :
    readChunks (fuel + 1) (some format) (tagBytes "data" ++ (bytesOf 4 size ++ rest)) =
      Header.ofData format size rest := by
  rw [readChunks]
  rw [bind_of_ok (take_tag (by decide) _), bind_of_ok (number_append fits _), if_neg (by decide), if_neg (by decide),
    if_pos rfl]

/-- The header that is written for a number of frames is read as that of floating-point samples, one for
every channel and frame. -/
theorem readHeader_headerBytes {sampleRate : UInt32} {channels frames : Nat} (positive : 0 < channels)
    (frame : 4 * channels < 2 ^ 16) (speed : 4 * channels * sampleRate.toNat < 2 ^ 32)
    (size : 60 + 4 * (frames * channels) < 2 ^ 32) (rest : List UInt8) :
    readHeader (headerBytes sampleRate channels (4 * (frames * channels)) ++ rest) =
      .ok (⟨floatFormat channels sampleRate.toNat, frames * channels⟩, rest) := by
  have order : headerBytes sampleRate channels (4 * (frames * channels)) ++ rest =
      tagBytes "RIFF" ++ (bytesOf 4 (60 + 4 * (frames * channels)) ++ (tagBytes "WAVE" ++
        (tagBytes "fmt " ++ (bytesOf 4 40 ++ (formatBytes sampleRate.toNat channels ++
          (tagBytes "data" ++ (bytesOf 4 (4 * (frames * channels)) ++ rest))))))) := by
    unfold headerBytes formatBytes
    simp only [List.append_assoc]
  have length := skip_append (bytesOf 4 (60 + 4 * (frames * channels)))
  rw [length_bytesOf] at length
  rw [order]
  unfold readHeader
  rw [bind_of_ok (take_tag (by decide) _), bind_of_ok (refuse_of_not (fun differs => differs rfl) _),
    bind_of_ok (length _), bind_of_ok (take_tag (by decide) _),
    bind_of_ok (refuse_of_not (fun differs => differs rfl) _)]
  -- the fuel is one more than the bytes that are left, which are enough for two chunks
  have rounds : ∀ tail : List UInt8, (tagBytes "fmt " ++ tail).length + 1 = tail.length + 3 + 1 + 1 := by
    intro tail
    rw [List.length_append, show (tagBytes "fmt ").length = 4 by decide]
    omega
  refine (bind_of_ok rfl _).trans ?_
  rw [rounds, readChunks_format positive frame sampleRate.toNat_lt speed, readChunks_data _ _ (by omega),
    ofData_floatFormat]

end BufferScope.Wave
