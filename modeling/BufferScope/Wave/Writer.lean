/-
Writing a sound file: one extensible format chunk, then the floating-point samples frame by frame.
-/
import BufferScope.Wave.Reader

namespace BufferScope.Wave

/-- The speakers of the first channels: one bit for each, as far as there are speakers. -/
def speakerMask (channels : Nat) : Nat := Nat.pow 2 (min channels 18) - 1

/-- The bytes before the samples. Sizes count what follows them. -/
def headerBytes (sampleRate : UInt32) (channels dataSize : Nat) : List UInt8 :=
  tagBytes "RIFF" ++ bytesOf 4 (60 + dataSize) ++ tagBytes "WAVE"
    ++ tagBytes "fmt " ++ bytesOf 4 40
    ++ bytesOf 2 0xfffe ++ bytesOf 2 channels ++ bytesOf 4 sampleRate.toNat
    ++ bytesOf 4 (4 * channels * sampleRate.toNat) ++ bytesOf 2 (4 * channels) ++ bytesOf 2 32
    ++ bytesOf 2 22 ++ bytesOf 2 32 ++ bytesOf 4 (speakerMask channels) ++ Encoding.float.guid
    ++ tagBytes "data" ++ bytesOf 4 dataSize

/-- The bytes of a sample. -/
def sampleBytes (x : Float32) : List UInt8 := bytesOf 4 x.toBits.toNat

/-- Why channels cannot be written, if they cannot. -/
def unwritable? {α : Type} (channels : List (Array α)) : Option InputError :=
  match channels with
  | [] => some .noChannelsToWrite
  | first :: _ =>
    if channels.any fun c => c.size ≠ first.size then some .raggedChannels
    else if UInt16.size ≤ channels.length then some (.tooManyChannels channels.length)
    else none

/-- The bytes of the sound file that holds channels of one length. -/
def clipBytes (clip : Clip) : List UInt8 :=
  let samples := interleave clip.channels (longest clip.channels)
  headerBytes clip.sampleRate clip.channels.length (4 * samples.length) ++ samples.flatMap sampleBytes

end BufferScope.Wave
