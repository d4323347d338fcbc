/-
The format of the samples in a sound file, as its format chunk describes it: plain whole-number
samples, floating-point samples, or the extensible form of either.
-/
import BufferScope.Wave.Bytes

namespace BufferScope.Wave

/-- What the bytes of a sample stand for. -/
inductive Encoding where
  | integer
  | float
  deriving DecidableEq, Repr

structure Format where
  channels : Nat
  sampleRate : Nat
  /-- The bits of a sample that count. -/
  bits : Nat
  /-- The bytes that a sample takes. -/
  sampleBytes : Nat
  encoding : Encoding
  deriving DecidableEq, Repr

/-- The identifier of an encoding in the extensible form. -/
def Encoding.guid : Encoding → List UInt8
  | .integer => 1 :: guidTail
  | .float => 3 :: guidTail
where
  guidTail : List UInt8 := [0, 0, 0, 0, 0, 16, 0, 128, 0, 0, 170, 0, 56, 155, 113]

/-- The end of a format chunk for whole-number samples. -/
def integerTail (size : Nat) (f : Format) : Reader Format := do
  match size with
  | 16 => return f
  | 18 | 40 =>
    let _ ← number 2
    refuse (f.bits ≠ 8 ∧ f.bits ≠ 16 ∧ f.bits ≠ 24) .bitsNot8Or16
    if size = 40 then skip 22
    return f
  | _ => malformed .unexpectedFormatSize

/-- The end of a format chunk for floating-point samples. -/
def floatTail (size : Nat) (f : Format) : Reader Format := do
  refuse (size ≠ 16 ∧ size ≠ 18) .unexpectedFormatSize
  if size = 18 then
    let extension ← number 2
    refuse (extension ≠ 0) .extensionSize
  refuse (f.bits ≠ 32) .bitsNot32
  return { f with encoding := .float }

/-- The end of an extensible format chunk. It may say that fewer bits count than a sample has. -/
def extensibleTail (size : Nat) (f : Format) : Reader Format := do
  refuse (size < 40) .unexpectedFormatSize
  let extension ← number 2
  refuse (extension ≠ 22) .extensibleSize
  let validBits ← number 2
  skip 4
  let guid ← take 16
  let bits := if 0 < validBits then validBits else f.bits
  if guid = Encoding.integer.guid then return { f with bits }
  else if guid = Encoding.float.guid then return { f with bits, encoding := .float }
  else throw (.codec .unsupported)

/-- The format that a chunk of the given size describes. -/
def readFormat (size : Nat) : Reader Format := do
  refuse (size < 16) .formatSize
  let tag ← number 2
  let channels ← number 2
  let sampleRate ← number 4
  let bytesPerSecond ← number 4
  let frameBytes ← number 2
  let bits ← number 2
  refuse (channels = 0) .noChannels
  let sampleBytes := frameBytes / channels
  refuse (UInt16.size ≤ sampleBytes * 8 ∨ sampleBytes * 8 < bits) .bitsExceedSample
  refuse (bytesPerSecond ≠ frameBytes * sampleRate) .inconsistentFormat
  refuse (bits % 8 ≠ 0) .bitsNotWholeBytes
  refuse (bits = 0) .noBits
  let f : Format := ⟨channels, sampleRate, bits, sampleBytes, .integer⟩
  match tag with
  | 1 => integerTail size f
  | 3 => floatTail size f
  | 0xfffe => extensibleTail size f
  | _ => throw (.codec .unsupported)

end BufferScope.Wave
