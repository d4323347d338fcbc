/-
Sound files, written and read back. `load_save`: a clip whose numbers fit the fields of the header is
read back as it was written, bit for bit, whatever the number of channels and frames; channels that
cannot be written are refused without a change to any file.
-/
import Mathlib
import BufferScope.Proofs.Files.Overwrite
import BufferScope.Proofs.Wave.Clip
import BufferScope.Proofs.Wave.Header
import BufferScope.Wave.File

namespace BufferScope.Wave

/-! ## Samples -/

theorem ofBits_sampleBytes (x : Float32) : Float32.ofBits (UInt32.ofNat (valueOf (sampleBytes x))) = x := by
  unfold sampleBytes
  rw [valueOf_bytesOf, Nat.mod_eq_of_lt x.toBits.toNat_lt, UInt32.ofNat_toNat, Float32.ofBits_toBits]

/-- The samples that were written one after the other are read in that order. -/
theorem samplesFrom_flatMap {read : List UInt8 → Float32} (back : ∀ x, read (sampleBytes x) = x)
    (samples : List Float32) : ∀ before : Array Float32,
    samplesFrom read 4 samples.length before (samples.flatMap sampleBytes) = .ok (before ++ samples.toArray) := by
  induction samples with
  | nil =>
    intro before
    rw [List.flatMap_nil, List.length_nil, samplesFrom]
    simp
  | cons x rest ih =>
    intro before
    have width : (sampleBytes x).length = 4 := length_bytesOf ..
    rw [List.flatMap_cons, List.length_cons, samplesFrom]
    simp only [← width, List.take_left, List.drop_left, if_true, back]
    rw [width, ih]
    simp

theorem readSamples_flatMap (channels sampleRate : Nat) (samples : List Float32) :
    readSamples ⟨floatFormat channels sampleRate, samples.length⟩ (samples.flatMap sampleBytes) =
      .ok samples.toArray := by
  unfold readSamples
  split
  · next none =>
    cases List.eq_nil_of_length_eq_zero none
    rfl
  · exact (samplesFrom_flatMap ofBits_sampleBytes samples #[]).trans (by rw [Array.empty_append])

/-! ## Clips -/

/-- A clip that a file can hold: some channels of one length, with the numbers of the header in the range
of their fields. -/
structure Clip.Storable (clip : Clip) (frames : Nat) : Prop where
  nonempty : clip.channels ≠ []
  even : ∀ c ∈ clip.channels, c.size = frames
  frame : 4 * clip.channels.length < 2 ^ 16
  speed : 4 * clip.channels.length * clip.sampleRate.toNat < 2 ^ 32
  size : 60 + 4 * (frames * clip.channels.length) < 2 ^ 32

namespace Clip.Storable

variable {clip : Clip} {frames : Nat}

theorem readClip_clipBytes (storable : clip.Storable frames) : readClip (clipBytes clip) = .ok clip := by
  have bytes : clipBytes clip = headerBytes clip.sampleRate clip.channels.length (4 * (frames * clip.channels.length))
      ++ (interleave clip.channels frames).flatMap sampleBytes := by
    unfold clipBytes
    simp only [longest_eq storable.nonempty storable.even, length_interleave storable.even]
  have header := readHeader_headerBytes (List.length_pos_iff.mpr storable.nonempty) storable.frame storable.speed
    storable.size ((interleave clip.channels frames).flatMap sampleBytes)
  have samples := readSamples_flatMap clip.channels.length clip.sampleRate.toNat (interleave clip.channels frames)
  rw [length_interleave storable.even] at samples
  have split := deinterleave_interleave storable.nonempty storable.even
  unfold readClip clipAfter
  simp only [bytes, header, samples, bind, Except.bind]
  simp only [floatFormat, split, UInt32.ofNat_toNat]
  rfl

theorem unwritable?_eq_none (storable : clip.Storable frames) : unwritable? clip.channels = none := by
  obtain ⟨nonempty, even, frame, -, -⟩ := storable
  unfold unwritable?
  split
  · next none => exact absurd none nonempty
  next first rest same =>
  have level : (clip.channels.any fun c => c.size ≠ first.size) = false := by
    rw [List.any_eq_false]
    intro c member
    rw [even c member, even first (same ▸ List.mem_cons_self)]
    simp
  rw [level, if_neg (by decide), if_neg (by unfold UInt16.size; omega)]

end Clip.Storable

/-- Channels that are none, of two lengths or too many cannot be written. -/
theorem exists_unwritable?_eq_some {channels : List (Array Float32)}
    (refused : channels = [] ∨ (∃ c ∈ channels, ∃ d ∈ channels, c.size ≠ d.size) ∨
      65535 < channels.length) :
    ∃ error, unwritable? channels = some error := by
  unfold unwritable?
  split
  · exact ⟨_, rfl⟩
  next first rest =>
  split
  · exact ⟨_, rfl⟩
  next level =>
  rcases refused with empty | ⟨c, inside, d, present, differ⟩ | many
  · cases empty
  · -- all channels are as long as the first, so no two lengths differ
    have same : ∀ c ∈ first :: rest, c.size = first.size := by simpa using level
    exact absurd ((same c inside).trans (same d present).symm) differ
  · rw [if_pos (by unfold UInt16.size; omega)]
    exact ⟨_, rfl⟩

/-! ## Files -/

theorem value_load (files : FileTree) (path : String) :
    (load files path).value = (fileBytes files path).bind readClip := by
  unfold load readClip
  rcases fileBytes files path with error | bytes
  · rfl
  simp only [bind, Except.bind]
  rcases readHeader bytes with error | ⟨header, rest⟩
  · rfl
  simp only
  rcases clipAfter header rest with error | clip
  · rfl
  · rfl

theorem value_save_of_writable {files after : FileTree} {path : String} {clip : Clip}
    (fine : unwritable? clip.channels = none) (wrote : files.write path (.bytes (clipBytes clip)) = .ok after) :
    (save files path clip).value = (.ok (), after) := by
  unfold save
  rw [fine]
  simp only [wrote]
  rfl

/-- A clip is written once, or refused with the files as they were. -/
theorem save_cases (files : FileTree) (path : String) (clip : Clip) :
    (∃ error, (save files path clip).value = (.error error, files)) ∨
    ∃ after, (save files path clip).value = (.ok (), after) ∧
      files.write path (.bytes (clipBytes clip)) = .ok after := by
  rcases checked : unwritable? clip.channels with _ | error
  · rcases wrote : files.write path (.bytes (clipBytes clip)) with error | after
    · refine .inl ⟨.file error, ?_⟩
      unfold save
      rw [checked]
      simp only [wrote]
      rfl
    · exact .inr ⟨after, value_save_of_writable checked wrote, rfl⟩
  · refine .inl ⟨.input error, ?_⟩
    unfold save
    rw [checked]
    rfl

/-- A clip that was saved is loaded as it was. -/
theorem load_of_saved {files after : FileTree} {path : String} {clip : Clip} {frames : Nat}
    (storable : clip.Storable frames) (saved : (save files path clip).value = (.ok (), after)) :
    (load after path).value = .ok clip := by
  rcases wrote : files.write path (.bytes (clipBytes clip)) with error | written
  · unfold save at saved
    rw [storable.unwritable?_eq_none] at saved
    simp only [wrote] at saved
    cases saved
  · rw [value_save_of_writable storable.unwritable?_eq_none wrote] at saved
    cases saved
    have bytes : fileBytes after path = .ok (clipBytes clip) := by
      unfold fileBytes
      rw [FileTree.read_write wrote]
      rfl
    rw [value_load, bytes, Except.bind, storable.readClip_clipBytes]

/-- What a writable path is given to hold as a clip is what loading it returns: the sample rate and
every channel, bit for bit and in order, also without frames. No channels, channels of different lengths
and more than 65535 channels are refused, and the files stay as they were. -/
theorem load_save (files : FileTree) (path : String) (clip : Clip) :
    (∀ frames, clip.Storable frames → files.Writable path →
      ∃ after, (save files path clip).value = (.ok (), after) ∧ (load after path).value = .ok clip) ∧
    (clip.channels = [] ∨ (∃ c ∈ clip.channels, ∃ d ∈ clip.channels, c.size ≠ d.size) ∨
      65535 < clip.channels.length →
      ∃ error, (save files path clip).value = (.error (.input error), files)) := by
  constructor
  · intro frames storable writable
    obtain ⟨after, wrote⟩ := writable.exists_write (.bytes (clipBytes clip))
    refine ⟨after, value_save_of_writable storable.unwritable?_eq_none wrote, ?_⟩
    have bytes : fileBytes after path = .ok (clipBytes clip) := by
      unfold fileBytes
      rw [FileTree.read_write wrote]
      rfl
    rw [value_load, bytes, Except.bind, storable.readClip_clipBytes]
  · intro refused
    obtain ⟨error, unwritable⟩ := exists_unwritable?_eq_some refused
    refine ⟨error, ?_⟩
    unfold save
    rw [unwritable]
    rfl

/-- Two channels of three samples, among them a negative zero, an infinity and the smallest sample. -/
def edges : Clip :=
  ⟨44100, [#[0, Float32.ofBits 0x80000000, 1], #[Float32.ofBits 0xff800000, Float32.ofBits 1, -0.5]]⟩

/-- A tree with one file. -/
def oldFile : FileTree := { root := [("out.wav", .file (.bytes [1, 2, 3]))] }

theorem writable_oldFile : oldFile.Writable "out.wav" := by
  have located : oldFile.locate .writing (FilePath.ofText "out.wav") =
      .ok ⟨⟨oldFile.root, []⟩, some "out.wav", false⟩ := (FileTree.locate_eq_destination (by cbv)).trans rfl
  have free : ∀ inner, oldFile.root.get? "out.wav" ≠ some (.directory inner) := fun inner held => by cases held
  have unlinked : ∀ target, oldFile.root.get? "out.wav" ≠ some (.link target) := fun target held => by cases held
  exact FileTree.Target.writable ⟨located, rfl, rfl, by decide, free, unlinked⟩

/-- The clip takes the place of an older file; a channel without samples beside one that has some is
refused. -/
theorem load_save_edges :
    edges.Storable 3 ∧ oldFile.Writable "out.wav" ∧
    (∃ after, (save oldFile "out.wav" edges).value = (.ok (), after) ∧ (load after "out.wav").value = .ok edges) ∧
    ∃ error, (save oldFile "out.wav" ⟨44100, [#[0], #[]]⟩).value = (.error (.input error), oldFile) := by
  have storable : edges.Storable 3 := ⟨by simp [edges], by simp [edges], by decide, by decide, by decide⟩
  have ragged : ∃ c ∈ [#[(0 : Float32)], #[]], ∃ d ∈ [#[(0 : Float32)], #[]], c.size ≠ d.size :=
    ⟨#[0], by simp, #[], by simp, by decide⟩
  exact ⟨storable, writable_oldFile, (load_save oldFile "out.wav" edges).1 3 storable writable_oldFile,
    (load_save oldFile "out.wav" ⟨44100, [#[0], #[]]⟩).2 (.inr (.inl ragged))⟩

end BufferScope.Wave
