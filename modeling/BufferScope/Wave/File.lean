/-
Sound files in a tree of files.
-/
import BufferScope.Files
import BufferScope.Log
import BufferScope.Wave.Writer

namespace BufferScope.Wave

/-- The bytes of the file at a path. -/
def fileBytes (files : FileTree) (path : String) : Except AudioError (List UInt8) :=
  match files.read path with
  | .error error => .error (.file error)
  | .ok content => .ok content.toBytes

/-- Reads the sound file at `path`. -/
def load (files : FileTree) (path : String) : Logged (Except AudioError Clip) := do
  match fileBytes files path >>= readHeader with
  | .error error => return .error error
  | .ok (header, rest) =>
    log .info "pysynth_infra::audio::wav" "Reading WAV file"
      [⟨"path", .plain path⟩, ⟨"channels", .count header.format.channels⟩,
       ⟨"sample_rate", .count header.format.sampleRate⟩, ⟨"bits", .count header.format.bits⟩]
    match clipAfter header rest with
    | .error error => return .error error
    | .ok clip =>
      log .debug "pysynth_infra::audio::wav" "WAV file decoded" [⟨"frames", .count (longest clip.channels)⟩]
      return .ok clip

/-- Writes a clip to `path`. Channels that cannot be written are refused before the file is
touched. -/
def save (files : FileTree) (path : String) (clip : Clip) : Logged (Except AudioError Unit × FileTree) := do
  match unwritable? clip.channels with
  | some error => return (.error (.input error), files)
  | none =>
    log .info "pysynth_infra::audio::wav" "Writing WAV file"
      [⟨"path", .plain path⟩, ⟨"channels", .count clip.channels.length⟩,
       ⟨"sample_rate", .count clip.sampleRate.toNat⟩, ⟨"frames", .count (longest clip.channels)⟩]
    match files.write path (.bytes (clipBytes clip)) with
    | .error error => return (.error (.file error), files)
    | .ok files => return (.ok (), files)

end BufferScope.Wave
