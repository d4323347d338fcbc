/-
The numbers of the frames in a sequence of pictures. A frame that is taken goes to the next number, where
there was no file (`BlitsNext`), and nothing under the other numbers changes, since no two names are those
of one file if none is that of a link (`apart_framePath`). So after any number of frames the files are
those frames in their order (`Holds`), whatever failed in between, as long as nobody else touches them
(`LeftAlone`).
-/
import Mathlib
import BufferScope.Proofs.Canvas.Png
import BufferScope.Proofs.Plot.Paint
import BufferScope.Proofs.Screen.Frames

namespace BufferScope

/-- Whether the bytes of a file are those of a picture. -/
def FileContent.Shows (content : FileContent) (frame : Canvas) : Prop := Png.decode? content.toBytes = some frame

namespace PngSequence

/-! ## Names are distinct -/

theorem toList_sixDigits (index : ℕ) :
    ∃ padding, (sixDigits index).toList = List.replicate padding '0' ++ Nat.toDigits 10 index := by
  have padding := List.eq_replicate_of_mem fun c => eq_zero_of_mem_pushn (c := c) (6 - (toString index).length)
  unfold sixDigits
  rw [String.toList_append, padding, Nat.toString_eq_repr, Nat.toList_repr]
  exact ⟨_, rfl⟩

/-- Zeros in front of a number do not change it, so it can be read from its digits, however many there are. -/
theorem ofDigitChars_sixDigits (index : ℕ) : Nat.ofDigitChars 10 (sixDigits index).toList 0 = index := by
  obtain ⟨padding, digits⟩ := toList_sixDigits index
  rw [digits, Nat.ofDigitChars_append, Nat.ofDigitChars_replicate_zero, Nat.mul_zero, Nat.ofDigitChars_ten_toDigits]

theorem frameName_injective : Function.Injective frameName := by
  intro index other same
  have texts := congrArg String.toList same
  rw [toList_frameName, toList_frameName] at texts
  have digits := List.append_cancel_left (List.append_cancel_right texts)
  calc index = Nat.ofDigitChars 10 (sixDigits index).toList 0 := (ofDigitChars_sixDigits index).symm
    _ = Nat.ofDigitChars 10 (sixDigits other).toList 0 := by rw [digits]
    _ = other := ofDigitChars_sixDigits other

theorem framePath_injective (s : PngSequence) : Function.Injective s.framePath := by
  intro index other same
  have steps : ∀ n, (FilePath.ofText (s.framePath n)).steps = (FilePath.ofText s.directory).steps ++ [frameName n] :=
    fun n => (FilePath.steps_join s.directory (isName_frameName n)).1
  have names :=
    (steps index).symm.trans ((congrArg (fun path => (FilePath.ofText path).steps) same).trans (steps other))
  exact frameName_injective (List.singleton_inj.mp (List.append_cancel_left names))

/-- The names of two frames are never at the same place, whatever their directory is. -/
theorem place_framePath_ne (s : PngSequence) {index other : ℕ} (differs : other ≠ index) {t : FileTree}
    {d e : Destination} (leads : t.destination .making (FilePath.ofText (s.framePath index)) = .ok d)
    (leadsOther : t.destination .making (FilePath.ofText (s.framePath other)) = .ok e) : e.place ≠ d.place := by
  obtain ⟨above, below, place⟩ := FileTree.destination_below (isName_frameName index) leads
  obtain ⟨above', below', place'⟩ := FileTree.destination_below (isName_frameName other) leadsOther
  cases below.symm.trans below'
  rw [place, place']
  intro same
  exact differs (frameName_injective (List.singleton_inj.mp (List.append_cancel_left same)))

/-! ## Names without links -/

/-- Whether nothing but a directory has the name of a frame. -/
def Vacant (s : PngSequence) (files : FileTree) : Prop :=
  ∀ index d, files.destination .making (FilePath.ofText (s.framePath index)) = .ok d →
    files.get? d.place = none ∨ files.get? d.place = some .directory

/-- Whether no link has the name of a frame. -/
def Unlinked (s : PngSequence) (files : FileTree) : Prop :=
  ∀ index d target, files.destination .making (FilePath.ofText (s.framePath index)) = .ok d →
    files.get? d.place ≠ some (.link target)

theorem Vacant.unlinked {s : PngSequence} {files : FileTree} (vacant : s.Vacant files) : s.Unlinked files := by
  intro index d target leads
  obtain missing | there := vacant index d leads
  · simp [missing]
  · simp [there]

/-- The path of a frame leads to the name of that frame. -/
theorem Unlinked.destination_making {s : PngSequence} {files : FileTree} (unlinked : s.Unlinked files) {use : PathUse}
    {index : ℕ} {d : Destination} (leads : files.destination use (FilePath.ofText (s.framePath index)) = .ok d) :
    files.destination .making (FilePath.ofText (s.framePath index)) = .ok d := by
  obtain ⟨d', making, rfl | ⟨target, isLink⟩⟩ := FileTree.destination_making leads
  · exact making
  · exact absurd isLink (unlinked index d' target making)

theorem Vacant.read_ne {s : PngSequence} {files : FileTree} (vacant : s.Vacant files) (index : ℕ)
    (content : FileContent) : files.read (s.framePath index) ≠ .ok content := by
  intro got
  obtain ⟨d, name, located, -, -, -, there⟩ := FileTree.read_eq_ok_iff.mp got
  have making := vacant.unlinked.destination_making (FileTree.locate_eq_ok_iff.mp located).2
  unfold FileTree.contentAt? at there
  obtain missing | directory := vacant index d making
  · rw [missing] at there
    cases there
  · rw [directory] at there
    cases there

/-- Links stay where they are when the directories and the links do. -/
theorem Unlinked.of_kept {s : PngSequence} {before after : FileTree} (unlinked : s.Unlinked before)
    (working : after.working = before.working) (kept : FileCursor.KeepsWays after.root before.root) :
    s.Unlinked after := by
  intro index d target leads isLink
  obtain ⟨d', leads', place⟩ := FileTree.exists_destination_of_kept working kept leads
  rw [← place] at isLink
  exact unlinked index d' target leads' ((kept.links _ _).mpr isLink)

theorem Unlinked.write {s : PngSequence} {before after : FileTree} (unlinked : s.Unlinked before) {path : String}
    {content : FileContent} (wrote : before.write path content = .ok after) : s.Unlinked after := by
  obtain ⟨d, name, target⟩ := FileTree.exists_target wrote
  have stored := target.stored wrote
  exact unlinked.of_kept stored.working stored.keptBack

/-- A new frame is in no file that another frame is in. -/
theorem apart_framePath {s : PngSequence} {t : FileTree} (unlinked : s.Unlinked t) {index other : ℕ}
    (differs : other ≠ index) (free : ∀ content, t.read (s.framePath index) ≠ .ok content) {d e : Destination}
    {name : String} (target : t.Target (s.framePath index) d name)
    (leadsOther : t.destination .reading (FilePath.ofText (s.framePath other)) = .ok e) :
    ¬t.SameFile e.place d.place := by
  have leads := unlinked.destination_making target.leads
  rintro (same | ⟨number, -, held⟩)
  · exact s.place_framePath_ne differs leads (unlinked.destination_making leadsOther) same
  · -- a file with another name would have been read
    have there : t.contentAt? d.place = some (t.shared number) := by
      unfold FileTree.contentAt?
      rw [held]
      rfl
    have located := FileTree.locate_reading_of_writing target.located target.noSlash
    exact free _ (FileTree.read_eq_ok_iff.mpr ⟨d, name, located, target.named, target.noSlash, target.short, there⟩)

/-! ## One blit -/

/-- A frame is taken if it has pixels and can be written. -/
theorem blit_eq_ok_iff (s : PngSequence) (frame : Canvas) : (s.blit frame).value.1 = .ok () ↔
    (0 < frame.width ∧ 0 < frame.height) ∧ s.files.Writable (s.framePath s.nextFrame) := by
  obtain ⟨files, sized, wrote, written⟩ | ⟨error, unwritable, failed⟩ | ⟨error, files, flat, -, failed⟩ :=
    s.blit_cases frame
  · rw [written]
    exact ⟨fun _ => ⟨sized, _, _, wrote⟩, fun _ => rfl⟩
  · rw [failed]
    exact ⟨fun taken => (nomatch taken), fun ⟨_, writable⟩ => absurd writable unwritable⟩
  · rw [failed]
    exact ⟨fun taken => (nomatch taken), fun ⟨sized, _⟩ => absurd sized flat⟩

/-- The counter moves when a frame is taken, and only then. -/
theorem nextFrame_blit (s : PngSequence) (frame : Canvas) :
    (s.blit frame).value.2.nextFrame = s.nextFrame + if (s.blit frame).value.1.isOk then 1 else 0 := by
  obtain ⟨files, -, -, written⟩ | ⟨error, -, failed⟩ | ⟨error, files, -, -, failed⟩ := s.blit_cases frame
  · rw [written]
    rfl
  · rw [failed]
    rfl
  · rw [failed]
    rfl

/-- A blit makes no link. -/
theorem unlinked_blit {s : PngSequence} (unlinked : s.Unlinked s.files) (frame : Canvas) :
    s.Unlinked (s.blit frame).value.2.files := by
  obtain ⟨files, -, wrote, written⟩ | ⟨error, -, failed⟩ | ⟨error, files, -, emptied, failed⟩ :=
    s.blit_cases frame
  · rw [written]
    exact unlinked.write wrote
  · rw [failed]
    exact unlinked
  · rw [failed]
    exact unlinked.write emptied

/-- No other frame is changed by a blit to a free name, taken or not. -/
theorem read_blit_of_ne {s : PngSequence} (unlinked : s.Unlinked s.files)
    (free : ∀ content, s.files.read (s.framePath s.nextFrame) ≠ .ok content) (frame : Canvas) {index : ℕ}
    (differs : index ≠ s.nextFrame) (content : FileContent) :
    (s.blit frame).value.2.files.read (s.framePath index) = .ok content ↔
      s.files.read (s.framePath index) = .ok content := by
  have elsewhere : ∀ {after written}, s.files.write (s.framePath s.nextFrame) written = .ok after →
      (after.read (s.framePath index) = .ok content ↔ s.files.read (s.framePath index) = .ok content) := by
    intro after written wrote
    obtain ⟨d, name, target⟩ := FileTree.exists_target wrote
    refine FileTree.read_write_of_apart wrote (fun d' e leads leadsOther => ?_) content
    cases target.leads.symm.trans leads
    exact apart_framePath unlinked differs free target leadsOther
  obtain ⟨files, -, wrote, written⟩ | ⟨error, -, failed⟩ | ⟨error, files, -, emptied, failed⟩ :=
    s.blit_cases frame
  · rw [written]
    exact elsewhere wrote
  · rw [failed]
  · rw [failed]
    exact elsewhere emptied

/-- A frame that is taken is in the file with its number, whose bytes show it. -/
theorem exists_read_blit_self {s : PngSequence} {frame : Canvas} (taken : (s.blit frame).value.1 = .ok ()) :
    ∃ content, (s.blit frame).value.2.files.read (s.framePath s.nextFrame) = .ok content ∧
      (Png.Fits frame → content.Shows frame) := by
  obtain ⟨files, sized, wrote, written⟩ | ⟨error, -, failed⟩ | ⟨error, files, -, -, failed⟩ :=
    s.blit_cases frame
  · rw [written]
    exact ⟨.picture frame, FileTree.read_write wrote, fun fits => Png.decode?_encode fits sized⟩
  · rw [failed] at taken
    cases taken
  · rw [failed] at taken
    cases taken

/-! ## Frames that are there -/

/-- Whether the files under the names of frames show some frames, in this order from the first name on, and
there are no others, and no links. -/
structure Holds (s : PngSequence) (files : FileTree) (frames : List Canvas) : Prop where
  shows : ∀ index frame, frames[index]? = some frame →
    ∃ content, files.read (s.framePath index) = .ok content ∧ content.Shows frame
  others : ∀ index, frames.length ≤ index → ∀ content, files.read (s.framePath index) ≠ .ok content
  unlinked : s.Unlinked files

/-- Whether the files under the names of frames are the same in two trees, with no links in the second. -/
structure SameFrames (s : PngSequence) (before after : FileTree) : Prop where
  reads : ∀ index content,
    after.read (s.framePath index) = .ok content ↔ before.read (s.framePath index) = .ok content
  unlinked : s.Unlinked after

/-- What a blit does to a sequence that is free from the next number on. A frame that is taken goes to that
number, where no file was. One that is not leaves the number to the next. No other frame is touched. -/
structure BlitsNext (s : PngSequence) (frame : Canvas) : Prop where
  taken_iff : (s.blit frame).value.1 = .ok () ↔
    (0 < frame.width ∧ 0 < frame.height) ∧ s.files.Writable (s.framePath s.nextFrame)
  free : ∀ content, s.files.read (s.framePath s.nextFrame) ≠ .ok content
  taken : (s.blit frame).value.1 = .ok () → (s.blit frame).value.2.nextFrame = s.nextFrame + 1 ∧
    ∃ content, (s.blit frame).value.2.files.read (s.framePath s.nextFrame) = .ok content ∧
      (Png.Fits frame → content.Shows frame)
  failed : ∀ error, (s.blit frame).value.1 = .error error → (s.blit frame).value.2.nextFrame = s.nextFrame
  others : ∀ index content, index ≠ s.nextFrame →
    ((s.blit frame).value.2.files.read (s.framePath index) = .ok content ↔
      s.files.read (s.framePath index) = .ok content)

variable {s : PngSequence} {frames : List Canvas}

/-- Only the directory of a sequence matters to where its frames are. -/
theorem Holds.of_directory {t : PngSequence} (same : t.directory = s.directory) {files : FileTree}
    (holds : s.Holds files frames) : t.Holds files frames := by
  have paths : t.framePath = s.framePath := by
    funext index
    unfold framePath
    rw [same]
  obtain ⟨shows, others, unlinked⟩ := holds
  constructor
  · rwa [paths]
  · rwa [paths]
  · unfold Unlinked
    rwa [paths]

theorem Holds.of_sameFrames {before after : FileTree} (holds : s.Holds before frames)
    (same : s.SameFrames before after) : s.Holds after frames where
  shows index frame there := by
    obtain ⟨content, read, shows⟩ := holds.shows index frame there
    exact ⟨content, (same.reads index content).mpr read, shows⟩
  others index beyond content read := holds.others index beyond content ((same.reads index content).mp read)
  unlinked := same.unlinked

theorem Holds.blitsNext (counted : s.nextFrame = frames.length) (holds : s.Holds s.files frames) (frame : Canvas) :
    s.BlitsNext frame := by
  have moved := s.nextFrame_blit frame
  constructor
  case taken_iff => exact s.blit_eq_ok_iff frame
  case free => exact holds.others _ counted.ge
  case taken =>
    intro taken
    rw [taken] at moved
    exact ⟨moved, exists_read_blit_self taken⟩
  case failed =>
    intro error failed
    rw [failed] at moved
    exact moved
  case others =>
    exact fun index content differs => read_blit_of_ne holds.unlinked (holds.others _ counted.ge) frame differs content

/-- With one frame more, one more is held. -/
theorem Holds.blit (counted : s.nextFrame = frames.length) (holds : s.Holds s.files frames) {frame : Canvas}
    (fits : Png.Fits frame) (taken : (s.blit frame).value.1 = .ok ()) :
    s.Holds (s.blit frame).value.2.files (frames ++ [frame]) := by
  have elsewhere := fun {index : ℕ} (differs : index ≠ s.nextFrame) =>
    read_blit_of_ne holds.unlinked (holds.others _ counted.ge) frame differs
  constructor
  case shows =>
    intro index other there
    -- the new file, or one of those before it
    by_cases next : index = s.nextFrame
    · rw [next, counted, List.getElem?_concat_length] at there
      cases there
      obtain ⟨content, read, shows⟩ := exists_read_blit_self taken
      exact ⟨content, next ▸ read, shows fits⟩
    · have before : index < frames.length := by
        have inside := (List.getElem?_eq_some_iff.mp there).1
        rw [List.length_append, List.length_singleton] at inside
        omega
      rw [List.getElem?_append_left before] at there
      obtain ⟨content, read, shows⟩ := holds.shows index other there
      exact ⟨content, (elsewhere next content).mpr read, shows⟩
  case others =>
    intro index beyond content read
    rw [List.length_append, List.length_singleton] at beyond
    exact holds.others index (by omega) content ((elsewhere (by omega) content).mp read)
  case unlinked => exact unlinked_blit holds.unlinked frame

/-! ## Sequences of blits -/

/-- What comes to a sequence: something is offered to be shown, or others change the files. -/
inductive Arrival (α : Type) where
  | offered (what : α)
  | changed (files : FileTree)

/-- The sequence after a frame was offered or the files were changed. -/
def next (s : PngSequence) : Arrival Canvas → PngSequence
  | .offered frame => (s.blit frame).value.2
  | .changed files => { s with files }

/-- The frame that is taken, if one is. -/
def taken? (s : PngSequence) : Arrival Canvas → Option Canvas
  | .offered frame => if (s.blit frame).value.1.isOk then some frame else none
  | .changed _ => none

def after (s : PngSequence) (arrivals : List (Arrival Canvas)) : PngSequence := arrivals.foldl next s

/-- The frames that are taken, in their order. -/
def taken (s : PngSequence) : List (Arrival Canvas) → List Canvas
  | [] => []
  | e :: rest => (s.taken? e).toList ++ (s.next e).taken rest

/-- Whether the frames are left alone from the tree `kept` on. Others may do what they like to the files, and
so may failed blits, if only the frames are as the last blit that was taken had left them when the next one is
taken, and in the end. -/
def LeftAlone (kept : FileTree) (s : PngSequence) : List (Arrival Canvas) → Prop
  | [] => s.SameFrames kept s.files
  | e :: rest => match s.taken? e with
    | some _ => s.SameFrames kept s.files ∧ LeftAlone (s.next e).files (s.next e) rest
    | none => LeftAlone kept (s.next e) rest

theorem offered_of_write {frame : Canvas} {files : FileTree} (sized : 0 < frame.width ∧ 0 < frame.height)
    (wrote : s.files.write (s.framePath s.nextFrame) (.picture frame) = .ok files) :
    s.taken? (.offered frame) = some frame ∧
      s.next (.offered frame) = { s with files, nextFrame := s.nextFrame + 1 } := by
  unfold taken? next
  dsimp only
  rw [value_blit_of_write sized wrote]
  exact ⟨rfl, rfl⟩

theorem offered_of_unwritable {frame : Canvas} (unwritable : ¬s.files.Writable (s.framePath s.nextFrame)) :
    s.taken? (.offered frame) = none ∧ s.next (.offered frame) = s := by
  obtain ⟨error, failed⟩ := value_blit_of_unwritable unwritable frame
  unfold taken? next
  dsimp only
  rw [failed]
  exact ⟨rfl, rfl⟩

/-- Frames with pixels leave the others alone, taken or not. -/
theorem leftAlone_of_sized {offers : List Canvas} (sized : ∀ frame ∈ offers, 0 < frame.width ∧ 0 < frame.height) :
    ∀ s : PngSequence, s.Unlinked s.files → s.LeftAlone s.files (offers.map .offered) := by
  induction offers with
  | nil => exact fun s unlinked => ⟨fun index content => Iff.rfl, unlinked⟩
  | cons frame rest ih =>
    intro s unlinked
    have later := ih fun other member => sized other (List.mem_cons_of_mem _ member)
    rw [List.map_cons, LeftAlone]
    by_cases writable : s.files.Writable (s.framePath s.nextFrame)
    · obtain ⟨files, wrote⟩ := writable.exists_write (.picture frame)
      obtain ⟨hit, following⟩ := offered_of_write (sized frame List.mem_cons_self) wrote
      rw [hit, following]
      exact ⟨⟨fun index content => Iff.rfl, unlinked⟩, later _ (unlinked.write wrote)⟩
    · -- a blit that cannot open its file changes nothing at all
      obtain ⟨missed, unchanged⟩ := offered_of_unwritable writable
      rw [missed, unchanged]
      exact later s unlinked

theorem directory_next (s : PngSequence) (e : Arrival Canvas) : (s.next e).directory = s.directory := by
  cases e with
  | offered frame => exact (s.changes_blit frame).1
  | changed files => rfl

theorem nextFrame_next (s : PngSequence) (e : Arrival Canvas) :
    (s.next e).nextFrame = s.nextFrame + (s.taken? e).toList.length := by
  cases e with
  | changed files => rfl
  | offered frame =>
    refine (s.nextFrame_blit frame).trans ?_
    unfold taken?
    dsimp only
    split
    · rfl
    · rfl

theorem eq_offered_of_taken {e : Arrival Canvas} {frame : Canvas} (hit : s.taken? e = some frame) :
    e = .offered frame ∧ (s.blit frame).value.1 = .ok () := by
  cases e with
  | changed files => cases hit
  | offered offer =>
    unfold taken? at hit
    dsimp only at hit
    rcases answer : (s.blit offer).value.1 with error | _
    · rw [answer] at hit
      cases hit
    · rw [answer] at hit
      cases hit
      exact ⟨rfl, answer⟩

theorem directory_after (arrivals : List (Arrival Canvas)) :
    ∀ s : PngSequence, (s.after arrivals).directory = s.directory := by
  induction arrivals with
  | nil => exact fun _ => rfl
  | cons e rest ih => exact fun s => (ih (s.next e)).trans (s.directory_next e)

theorem nextFrame_after (arrivals : List (Arrival Canvas)) : ∀ s : PngSequence,
    (s.after arrivals).nextFrame = s.nextFrame + (s.taken arrivals).length := by
  induction arrivals with
  | nil => exact fun _ => rfl
  | cons e rest ih =>
    intro s
    calc (s.after (e :: rest)).nextFrame = (s.next e).nextFrame + ((s.next e).taken rest).length := ih (s.next e)
      _ = s.nextFrame + (s.taken (e :: rest)).length := by
        rw [nextFrame_next, taken, List.length_append, Nat.add_assoc]

/-- The frames that were there, and after them those that are taken. -/
theorem holds_after (arrivals : List (Arrival Canvas)) : ∀ {s : PngSequence} {kept : FileTree} {frames : List Canvas},
    (∀ frame, .offered frame ∈ arrivals → Png.Fits frame) → s.nextFrame = frames.length →
    s.Holds kept frames →
      s.LeftAlone kept arrivals → s.Holds (s.after arrivals).files (frames ++ s.taken arrivals) := by
  induction arrivals with
  | nil =>
    intro s kept frames fits counted holds alone
    rw [taken, List.append_nil]
    exact holds.of_sameFrames alone
  | cons e rest ih =>
    intro s kept frames fits counted holds alone
    have later : ∀ frame, .offered frame ∈ rest → Png.Fits frame :=
      fun frame member => fits frame (List.mem_cons_of_mem _ member)
    have count := s.nextFrame_next e
    have there := s.directory_next e
    unfold LeftAlone at alone
    rw [taken]
    -- `kept` holds the frames so far, until the next one is taken
    rcases hit : s.taken? e with _ | frame
    · rw [hit] at count alone
      exact (ih later (count.trans counted) (holds.of_directory there) alone).of_directory there.symm
    · rw [hit] at count alone
      obtain ⟨left, alone⟩ := alone
      obtain ⟨rfl, answer⟩ := eq_offered_of_taken hit
      have more := (holds.of_sameFrames left).blit counted (fits frame List.mem_cons_self) answer
      have counted' : (s.next (.offered frame)).nextFrame = (frames ++ [frame]).length := by
        rw [count, counted, List.length_append]
        rfl
      rw [Option.toList_some, ← List.append_assoc]
      exact (ih later counted' (more.of_directory there) alone).of_directory there.symm

end PngSequence

/-! ## The count of a scope -/

namespace Scope

open PngSequence (Arrival)

variable {ε σ ρ : Type} [BufferEffect ε σ ρ]
variable [Add ρ] [Sub ρ] [Mul ρ] [Div ρ] [Neg ρ] [Zero ρ] [One ρ] [NatCast ρ] [IntCast ρ]
  [LT ρ] [DecidableLT ρ] [BEq ρ] [RealNumber ρ]

/-- The scope after an effect was offered to be presented, or the files were changed. -/
def next (s : Scope PngSequence) : Arrival ε → Scope PngSequence
  | .offered effect => (s.present effect).value.2
  | .changed files => { s with screen := { s.screen with files } }

def after (s : Scope PngSequence) (arrivals : List (Arrival ε)) : Scope PngSequence := arrivals.foldl next s

/-- What comes to the screen of a scope. Of an effect it is the picture, if there is one. -/
def passed? (s : Scope PngSequence) : Arrival ε → Option (Arrival Canvas)
  | .offered effect => (s.picture? effect).map .offered
  | .changed files => some (.changed files)

/-- A scope passes on what comes to it, and counts as its screen does. -/
theorem next_spec (s : Scope PngSequence) (e : Arrival ε) :
    (s.next e).screen = s.screen.after (s.passed? e).toList ∧
      (s.next e).passed? = (s.passed? : Arrival ε → Option (Arrival Canvas)) ∧
      (s.frames = s.screen.nextFrame → (s.next e).frames = (s.next e).screen.nextFrame) := by
  have sized : ∀ blit, (s.showing blit).passed? = (s.passed? : Arrival ε → Option (Arrival Canvas)) := by
    intro blit
    funext later
    cases later with
    | offered effect => exact congrArg (Option.map Arrival.offered) (s.picture?_showing blit effect)
    | changed files => rfl
  cases e with
  | changed files => exact ⟨rfl, rfl, id⟩
  | offered effect =>
    have shown : s.next (.offered effect) = s.showing (s.blit? effect) := congrArg Prod.snd (s.value_present effect)
    have passed : s.passed? (.offered effect) = (s.picture? effect).map .offered := rfl
    rw [shown, passed]
    refine ⟨?_, sized _, ?_⟩
    · unfold blit?
      rcases s.picture? effect with _ | frame
      · rfl
      · rfl
    · unfold blit?
      intro counted
      rcases s.picture? effect with _ | frame
      · exact counted
      · change s.frames + (if (s.screen.blit frame).value.1.isOk then 1 else 0) =
          (s.screen.blit frame).value.2.nextFrame
        rw [counted, PngSequence.nextFrame_blit]

theorem after_spec (arrivals : List (Arrival ε)) : ∀ s : Scope PngSequence,
    (s.after arrivals).screen = s.screen.after (arrivals.filterMap s.passed?) ∧
      (s.frames = s.screen.nextFrame → (s.after arrivals).frames = (s.after arrivals).screen.nextFrame) := by
  induction arrivals with
  | nil => exact fun _ => ⟨rfl, id⟩
  | cons e rest ih =>
    intro s
    obtain ⟨screen, passed, counts⟩ := s.next_spec e
    obtain ⟨later, counted⟩ := ih (s.next e)
    refine ⟨?_, fun before => counted (counts before)⟩
    rw [passed, screen] at later
    refine later.trans ?_
    rw [List.filterMap_cons]
    rcases s.passed? e with _ | event
    · rfl
    · rfl

/-- What a scope passes on has its size. -/
theorem size_of_passed (s : Scope PngSequence) (arrivals : List (Arrival ε)) (frame : Canvas)
    (member : .offered frame ∈ arrivals.filterMap s.passed?) : frame.width = s.width ∧ frame.height = s.height := by
  obtain ⟨e, -, passed⟩ := List.mem_filterMap.mp member
  cases e with
  | changed files => cases passed
  | offered effect =>
    obtain ⟨other, drawn, same⟩ := Option.map_eq_some_iff.mp passed
    cases same
    unfold picture? at drawn
    obtain ⟨plot, -, rendered⟩ := Option.bind_eq_some_iff.mp drawn
    rcases result : plot.render s.width s.height with error | canvas
    · rw [result] at rendered
      cases rendered
    · rw [result] at rendered
      cases rendered
      exact plot.size_of_render result

end Scope

namespace PngSequence

/-! ## Sequences that were just opened -/

/-- A screen that was opened draws in its directory, from the first number on. -/
theorem create_eq_ok {title directory : String} {before : FileTree} {screen : PngSequence}
    (opened : (create title directory before).value.1 = .ok screen) :
    screen.directory = directory ∧ screen.nextFrame = 0 := by
  unfold create at opened
  rcases made : before.makeDirectories directory with ⟨error | _, files⟩
  · rw [made] at opened
    cases opened
  · rw [made] at opened
    cases opened
    exact ⟨rfl, rfl⟩

variable (ε : Type) {σ ρ : Type} [BufferEffect ε σ ρ]
variable [Add ρ] [Sub ρ] [Mul ρ] [Div ρ] [Neg ρ] [Zero ρ] [One ρ] [NatCast ρ] [IntCast ρ]
  [LT ρ] [DecidableLT ρ] [BEq ρ] [RealNumber ρ]

/-- The frames of a sequence that is opened where there are none, nor links with their names. All their names
are distinct. After any arrivals the counter is the number of frames that were taken, and the files under the
names of frames show these frames in their order, size and pixels, as their bytes are decoded; the next frame
that is taken gets the next name, where there is no file, and a frame that is not taken leaves that name to the
next. Blits leave the frames alone, if what they are offered has pixels. A scope counts the same, whatever it is
offered, and what it passes on has its size. -/
theorem frames_in_order {title directory : String} {before : FileTree} {screen : PngSequence}
    (opened : (create title directory before).value.1 = .ok screen)
    (vacant : screen.Vacant screen.files) :
    Function.Injective screen.framePath ∧
    (∀ arrivals, (∀ frame, .offered frame ∈ arrivals → Png.Fits frame) →
      screen.LeftAlone screen.files arrivals →
      (screen.after arrivals).directory = directory ∧
      (screen.after arrivals).nextFrame = (screen.taken arrivals).length ∧
      (screen.after arrivals).Holds (screen.after arrivals).files (screen.taken arrivals) ∧
      ∀ frame, (screen.after arrivals).BlitsNext frame) ∧
    (∀ offers : List Canvas, (∀ frame ∈ offers, 0 < frame.width ∧ 0 < frame.height) →
      screen.LeftAlone screen.files (offers.map .offered)) ∧
    ∀ width height scope, (Scope.attach screen width height).value = .ok scope → ∀ arrivals : List (Arrival ε),
      (scope.after arrivals).screen = screen.after (arrivals.filterMap scope.passed?) ∧
      (scope.after arrivals).frames = (scope.after arrivals).screen.nextFrame ∧
      ∀ frame, .offered frame ∈ arrivals.filterMap scope.passed? →
        frame.width = width ∧ frame.height = height := by
  obtain ⟨inDirectory, fresh⟩ := create_eq_ok opened
  have none : screen.Holds screen.files [] := ⟨by simp, fun index _ => vacant.read_ne index, vacant.unlinked⟩
  refine ⟨screen.framePath_injective, ?_, fun offers sized => leftAlone_of_sized sized screen vacant.unlinked, ?_⟩
  · intro arrivals fits alone
    have there := directory_after arrivals screen
    have count : (screen.after arrivals).nextFrame = (screen.taken arrivals).length := by
      rw [nextFrame_after, fresh, Nat.zero_add]
    have holds := (holds_after arrivals fits fresh none alone).of_directory there
    exact ⟨there.trans inDirectory, count, holds, holds.blitsNext count⟩
  · intro width height scope attached arrivals
    unfold Scope.attach at attached
    split at attached
    · cases attached
      obtain ⟨same, counts⟩ := Scope.after_spec arrivals _
      exact ⟨same, counts fresh.symm, Scope.size_of_passed _ arrivals⟩
    · cases attached

/-- A picture of one pixel. -/
def dot (level : UInt8) : Canvas := .filled 1 1 ⟨level, level, level⟩

/-- A tree with a directory for frames. -/
def framesOnly (frames : FileEntries) : FileTree := { root := [("frames", .directory frames)] }

def opened : PngSequence := { title := "Testing", directory := "frames", files := framesOnly [] }

theorem create_opened : (create "Testing" "frames" {}).value.1 = .ok opened := by
  have made : FileTree.makeDirectories {} "frames" = (.ok (), framesOnly []) := by cbv
  unfold create
  rw [made]
  rfl

theorem vacant_opened : opened.Vacant opened.files := by
  intro index d leads
  obtain ⟨e, below, place⟩ := FileTree.destination_below (isName_frameName index) leads
  have inFrames : opened.files.destination .reading (FilePath.ofText "frames") =
      .ok ⟨⟨opened.files.root, []⟩, some "frames", false⟩ := rfl
  cases inFrames.symm.trans below
  rw [place]
  exact .inl rfl

/-- The tree with the first frame in it. -/
def oneFrame : FileTree := framesOnly [("frame_000000.png", .file (.picture (dot 10)))]

theorem writes_opened : opened.files.write (opened.framePath 0) (.picture (dot 10)) = .ok oneFrame ∧
    (∃ files, oneFrame.write (opened.framePath 1) (.picture (dot 30)) = .ok files) ∧
    ¬FileTree.Writable {} (opened.framePath 1) := by
  have first : opened.framePath 0 = "frames/frame_000000.png" := by decide +kernel
  have second : opened.framePath 1 = "frames/frame_000001.png" := by decide +kernel
  have sound : (FilePath.ofText "frames/frame_000000.png").fault? = none := by cbv
  have sound' : (FilePath.ofText "frames/frame_000001.png").fault? = none := by cbv
  have target : opened.files.Target "frames/frame_000000.png"
      ⟨⟨[], [("frames", opened.files.root)]⟩, some "frame_000000.png", false⟩ "frame_000000.png" :=
    ⟨(FileTree.locate_eq_destination sound).trans rfl, rfl, rfl, by decide, by rintro _ ⟨⟩, by rintro _ ⟨⟩⟩
  have target' : oneFrame.Target "frames/frame_000001.png"
      ⟨⟨[("frame_000000.png", .file (.picture (dot 10)))], [("frames", oneFrame.root)]⟩,
        some "frame_000001.png", false⟩
      "frame_000001.png" :=
    ⟨(FileTree.locate_eq_destination sound').trans rfl, rfl, rfl, by decide, by rintro _ ⟨⟩, by rintro _ ⟨⟩⟩
  rw [first, second]
  obtain ⟨number, shared, -⟩ | ⟨-, wrote⟩ := target.write_cases (.picture (dot 10))
  · cases shared
  refine ⟨wrote, target'.writable_of _, ?_⟩
  rintro ⟨content, files, wrote⟩
  obtain ⟨d, name, gone⟩ := FileTree.exists_target wrote
  have nowhere : FileTree.destination {} .writing (FilePath.ofText "frames/frame_000001.png") = .error .missing := rfl
  cases nowhere.symm.trans gone.leads

/-- The directory of the frames is gone when the second frame is offered, and back for the third. -/
def interrupted : List (Arrival Canvas) :=
  [.offered (dot 10), .changed {}, .offered (dot 20), .changed oneFrame, .offered (dot 30)]

theorem interrupted_spec :
    opened.LeftAlone opened.files interrupted ∧ opened.taken interrupted = [dot 10, dot 30] := by
  obtain ⟨wrote, ⟨files, wrote'⟩, unwritable⟩ := writes_opened
  let one : PngSequence := { opened with nextFrame := 1, files := oneFrame }
  let gone : PngSequence := { one with files := {} }
  have first : opened.taken? (.offered (dot 10)) = some (dot 10) ∧ opened.next (.offered (dot 10)) = one :=
    offered_of_write (by decide) wrote
  have missed : gone.taken? (.offered (dot 20)) = none ∧ gone.next (.offered (dot 20)) = gone :=
    offered_of_unwritable unwritable
  have second : one.taken? (.offered (dot 30)) = some (dot 30) ∧
      one.next (.offered (dot 30)) = { one with files, nextFrame := 2 } := offered_of_write (by decide) wrote'
  have left : one.next (.changed {}) = gone := rfl
  have back : gone.next (.changed oneFrame) = one := rfl
  have unoffered : ∀ (s : PngSequence) files, s.taken? (.changed files) = none := fun _ _ => rfl
  unfold interrupted
  constructor
  · simp only [LeftAlone, first, left, missed, back, second, unoffered]
    have unlinked := vacant_opened.unlinked
    have unlinked' := unlinked.write wrote
    exact ⟨⟨fun _ _ => Iff.rfl, unlinked⟩, ⟨fun _ _ => Iff.rfl, unlinked'⟩, fun _ _ => Iff.rfl,
      unlinked'.write wrote'⟩
  · simp only [taken, first, left, missed, back, second, unoffered]
    rfl

/-- A scope on the sequence. -/
def onOpened : Scope PngSequence := ⟨opened, 8, 6, 0, by decide⟩

/-- An effect with a plot is offered twice, and the directory is gone the second time. -/
def offeredTwice : List (Arrival Counter) := [.offered ⟨2⟩, .changed {}, .offered ⟨2⟩]

theorem taken_offeredTwice : ∃ frame, opened.taken (offeredTwice.filterMap onOpened.passed?) = [frame] := by
  obtain ⟨frame, rendered, drawn⟩ :=
    onOpened.picture?_eq_some (show BufferEffect.plot (⟨2⟩ : Counter) = some (Plot.spanning 1) from rfl)
  obtain ⟨wide, high⟩ := Plot.size_of_render _ rendered
  obtain ⟨wrote, -, unwritable⟩ := writes_opened
  obtain ⟨files, wrote⟩ := FileTree.Writable.exists_write ⟨_, _, wrote⟩ (.picture frame)
  have sized : 0 < frame.width ∧ 0 < frame.height := by
    rw [wide, high]
    decide
  have passed : offeredTwice.filterMap onOpened.passed? = [.offered frame, .changed {}, .offered frame] := by
    unfold offeredTwice Scope.passed?
    simp only [List.filterMap_cons, drawn, Option.map_some, List.filterMap_nil]
  let gone : PngSequence := { opened with nextFrame := 1, files := {} }
  have first : opened.taken? (.offered frame) = some frame ∧
      opened.next (.offered frame) = { opened with files, nextFrame := 1 } := offered_of_write sized wrote
  have missed : gone.taken? (.offered frame) = none ∧ gone.next (.offered frame) = gone :=
    offered_of_unwritable unwritable
  have left : ({ opened with files, nextFrame := 1 } : PngSequence).next (.changed {}) = gone := rfl
  have unoffered : ∀ (s : PngSequence) files, s.taken? (.changed files) = none := fun _ _ => rfl
  refine ⟨frame, ?_⟩
  rw [passed]
  simp only [taken, first, left, missed, unoffered]
  rfl

/-- Two frames of three are in the directory under the first two names, and one of two is counted by a scope. -/
theorem frames_in_order_interrupted :
    (opened.after interrupted).nextFrame = 2 ∧
    (∃ content, (opened.after interrupted).files.read "frames/frame_000001.png" = .ok content ∧
      Png.decode? content.toBytes = some (dot 30)) ∧
    (onOpened.after offeredTwice).frames = 1 := by
  obtain ⟨-, run, -, counts⟩ := frames_in_order Counter create_opened vacant_opened
  obtain ⟨alone, taken⟩ := interrupted_spec
  have fits : ∀ frame, .offered frame ∈ interrupted → Png.Fits frame := by
    intro frame member
    unfold interrupted at member
    simp only [List.mem_cons, Arrival.offered.injEq, reduceCtorEq, List.not_mem_nil, false_or, or_false] at member
    rcases member with rfl | rfl | rfl <;> exact ⟨by decide, by decide⟩
  obtain ⟨inFrames, count, holds, -⟩ := run interrupted fits alone
  rw [taken] at count holds
  refine ⟨count, ?_, ?_⟩
  · have second : (opened.after interrupted).framePath 1 = "frames/frame_000001.png" := by
      unfold framePath
      rw [inFrames]
      decide +kernel
    rw [← second]
    exact holds.shows 1 (dot 30) rfl
  · obtain ⟨screen, same, -⟩ := counts 8 6 onOpened rfl offeredTwice
    obtain ⟨frame, one⟩ := taken_offeredTwice
    rw [same, screen, nextFrame_after, one]
    rfl

end PngSequence

end BufferScope
