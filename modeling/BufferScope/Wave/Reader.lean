/-
Reading a sound file from its bytes. A file is a sequence of chunks: the format chunk comes before
the data chunk, and chunks of other kinds are passed over. Whole-number samples are scaled to
`[-1, 1)`.
-/
import BufferScope.Wave.Clip
import BufferScope.Wave.Format

namespace BufferScope.Wave

/-- The bytes of a tag of four letters. -/
def tagBytes (tag : String) : List UInt8 := tag.toList.map fun c => UInt8.ofNat c.toNat

/-! ## The chunks before the samples -/

/-- What is known when the samples begin. -/
structure Header where
  format : Format
  /-- The number of samples, over all channels. -/
  samples : Nat
  deriving DecidableEq, Repr

/-- The header that a format and the size of the data chunk make. -/
def Header.ofData (format : Format) (size : Nat) : Reader Header := do
  let samples := size / format.sampleBytes
  refuse (samples * format.sampleBytes ≠ size) .dataNotWholeSamples
  refuse (samples % format.channels ≠ 0) .dataNotWholeFrames
  return ⟨format, samples⟩

/-- Reads chunks up to the start of the data. Every chunk takes eight bytes at least, so `fuel`
rounds that have no end mean a file without data. -/
def readChunks : (fuel : Nat) → Option Format → Reader Header
  | 0, _ => throw (.file .truncated)
  | fuel + 1, format? => do
    let tag ← take 4
    let size ← number 4
    if tag = tagBytes "fmt " then
      let format ← readFormat size
      readChunks fuel (some format)
    else if tag = tagBytes "fact" then
      skip 4
      readChunks fuel format?
    else if tag = tagBytes "data" then
      match format? with
      | none => malformed .noFormat
      | some format => Header.ofData format size
    else
      skip size
      readChunks fuel format?

/-- Reads everything up to the first sample. -/
def readHeader : Reader Header := do
  let riff ← take 4
  refuse (riff ≠ tagBytes "RIFF") .noRiffTag
  skip 4
  let wave ← take 4
  refuse (wave ≠ tagBytes "WAVE") .noWaveTag
  readChunks ((← get).length + 1) none

/-! ## Samples -/

/-- A whole-number sample of the given width, scaled to `[-1, 1)`. -/
def scaledSample (bits : Nat) (value : Int) : Float32 :=
  Float32.ofInt value * ((1 : Float32) / Float32.ofNat (Nat.pow 2 (bits - 1)))

/-- How samples of a format are read from their bytes, if their width is a known one. A sample of
one byte has its zero in the middle; one of 24 bits may take four bytes, of which the last does not
count. -/
def sampleReader (f : Format) : Except CodecError (List UInt8 → Float32) :=
  match f.encoding, f.sampleBytes, f.bits with
  | .float, 4, 32 => .ok fun bytes => Float32.ofBits (UInt32.ofNat (valueOf bytes))
  | .integer, 1, 8 => .ok fun bytes => scaledSample 8 (valueOf bytes - 128)
  | .integer, 2, 16 => .ok fun bytes => scaledSample 16 (signedValueOf bytes)
  | .integer, 3, 24 => .ok fun bytes => scaledSample 24 (signedValueOf bytes)
  | .integer, 4, 24 => .ok fun bytes => scaledSample 24 (signedValueOf (bytes.take 3))
  | .integer, 4, 32 => .ok fun bytes => scaledSample 32 (signedValueOf bytes)
  | _, width, _ => if 4 < width then .error .tooWide else .error .unsupported

/-- Reads samples of `width` bytes one by one, after those in `before`. -/
def samplesFrom (read : List UInt8 → Float32) (width : Nat) :
    (count : Nat) → (before : Array Float32) → List UInt8 → Except AudioError (Array Float32)
  | 0, before, _ => .ok before
  | count + 1, before, bytes =>
    let sample := bytes.take width
    if sample.length = width then
      samplesFrom read width count (before.push (read sample)) (bytes.drop width)
    else .error (.file .truncated)

/-- The samples that follow a header. Without samples their width does not matter. -/
def readSamples (header : Header) (bytes : List UInt8) : Except AudioError (Array Float32) :=
  if header.samples = 0 then .ok #[]
  else match sampleReader header.format with
    | .error error => .error (.codec error)
    | .ok read => samplesFrom read header.format.sampleBytes header.samples #[] bytes

/-- The clip in the bytes that follow a header. -/
def clipAfter (header : Header) (bytes : List UInt8) : Except AudioError Clip := do
  let samples ← readSamples header bytes
  return ⟨UInt32.ofNat header.format.sampleRate, deinterleave header.format.channels samples⟩

/-- The clip in the bytes of a sound file. -/
def readClip (bytes : List UInt8) : Except AudioError Clip := do
  let (header, rest) ← readHeader bytes
  clipAfter header rest

end BufferScope.Wave
