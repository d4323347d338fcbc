/-
What frames do to a tree of files. Screens change it in two ways only, `FrameChange`: a directory is
made on the way to the directory of the frames, or a file is written under the name of a frame. So
everything else is spared (`Spares`), however many frames there are and whether they fail or not. Where
the name of a frame is that of a link, or one of several names of a file, the file that it leads to is
that of the frame.
-/
import BufferScope.Proofs.Files.Below
import BufferScope.Proofs.Host.Session
import BufferScope.Screen.Configured

namespace BufferScope

open FileCursor (KeepsWays)
open Relation (ReflTransGen)

/-! ## Names of frames -/

namespace PngSequence

/-- The name of the frame with the given number. -/
def frameName (index : ℕ) : String := "frame_" ++ sixDigits index ++ ".png"

theorem eq_zero_of_mem_pushn {c : Char} (count : ℕ) (member : c ∈ ("".pushn '0' count).toList) : c = '0' := by
  rw [String.pushn_eq_repeat_push] at member
  induction count with
  | zero => cases member
  | succ count ih =>
    rw [Nat.repeat, String.toList_push, List.mem_append, List.mem_singleton] at member
    exact member.elim ih id

theorem noSlash_sixDigits (index : ℕ) : '/' ∉ (sixDigits index).toList := by
  unfold sixDigits
  rw [String.toList_append, List.mem_append]
  rintro (padding | digit)
  · cases eq_zero_of_mem_pushn _ padding
  · rw [Nat.toString_eq_repr, Nat.toList_repr] at digit
    exact absurd (Nat.isDigit_of_mem_toDigits (by decide) (by decide) digit) (by decide)

theorem toList_frameName (index : ℕ) :
    (frameName index).toList = "frame_".toList ++ (sixDigits index).toList ++ ".png".toList := by
  simp [frameName]

theorem frameName_ne {name : String} (differs : name.toList.head? ≠ some 'f') (index : ℕ) :
    frameName index ≠ name := by
  rintro rfl
  rw [toList_frameName] at differs
  exact differs rfl

theorem isName_frameName (index : ℕ) : FilePath.IsName (frameName index) := by
  have noSlash : '/' ∉ (frameName index).toList := by
    rw [toList_frameName]
    simp [noSlash_sixDigits]
  exact ⟨frameName_ne (by decide) index, noSlash, frameName_ne (by decide) index, frameName_ne (by decide) index⟩

end PngSequence

/-! ## Changes for frames -/

/-- One change to a tree for the frames in a directory: a directory is made on the way there, or a file
is written under the name of a frame. Without a directory there is no change. -/
inductive FrameChange : Option String → FileTree → FileTree → Prop
  | made {directory : String} {path : FilePath} {before after : FileTree}
      (onTheWay : path ∈ (FilePath.ofText directory).ancestors) (done : before.makeDirectory path = .ok after) :
      FrameChange (some directory) before after
  | written {directory : String} {index : ℕ} {content : FileContent} {before after : FileTree}
      (done : before.write (FilePath.join directory (PngSequence.frameName index)) content = .ok after) :
      FrameChange (some directory) before after

namespace FileTree

/-- Whether a place is that of a frame: its name in the directory of the frames, or where that name leads to
if it is that of a link. -/
inductive IsFrame (t : FileTree) : Option String → FilePlace → Prop
  | inside {directory : String} {index : ℕ} {d : Destination}
      (leads : t.destination .reading (FilePath.ofText directory) = .ok d) :
      IsFrame t (some directory) (d.place ++ [PngSequence.frameName index])
  | linked {directory target : String} {index : ℕ} {d e : Destination}
      (leads : t.destination .reading (FilePath.ofText directory) = .ok d)
      (isLink : t.get? (d.place ++ [PngSequence.frameName index]) = some (.link target))
      (further : t.destination .writing (FilePath.ofText (FilePath.join directory (PngSequence.frameName index))) =
        .ok e) : IsFrame t (some directory) e.place

/-- Whether a place is that of a directory, or is passed on the way there. -/
def IsOnTheWay (t : FileTree) (directory? : Option String) (place : FilePlace) : Prop :=
  ∃ directory path d, directory? = some directory ∧ path ∈ (FilePath.ofText directory).ancestors ∧
    t.destination .making path = .ok d ∧ place = d.place

/-- What may come of a place when frames go to a directory. -/
inductive Spared (directory? : Option String) (before after : FileTree) (place : FilePlace) : Prop
  | same (here : after.get? place = before.get? place)
  | frame (content : FileContent) (isFrame : after.IsFrame directory? place)
      (replaceable : before.IsReplaceable place) (here : after.get? place = some (.file content))
  | made (onTheWay : after.IsOnTheWay directory? place) (missing : before.get? place = none)
      (here : after.get? place = some .directory)

/-- Every place is as it was, or is that of a frame, or is that of a directory on the way to the frames
which was not there. A file that can have several names holds what it held, if a frame is none of them. -/
structure Spares (directory? : Option String) (before after : FileTree) : Prop where
  working : after.working = before.working
  spared : ∀ place, Spared directory? before after place
  shared : ∀ number, after.shared number = before.shared number ∨
    ∃ place, after.IsFrame directory? place ∧ after.get? place = some (.shared number)

variable {directory? : Option String} {before between after : FileTree} {place : FilePlace}

theorem Spared.cases (spared : Spared directory? before after place) :
    after.get? place = before.get? place ∨
      (after.IsFrame directory? place ∧ before.IsReplaceable place ∧
        ∃ content, after.get? place = some (.file content)) ∨
      (after.IsOnTheWay directory? place ∧ before.get? place = none ∧ after.get? place = some .directory) := by
  cases spared with
  | same here => exact .inl here
  | frame content isFrame replaceable here => exact .inr (.inl ⟨isFrame, replaceable, content, here⟩)
  | made onTheWay missing here => exact .inr (.inr ⟨onTheWay, missing, here⟩)

/-- Where a frame is written there is the place of a frame. -/
theorem isFrame_of_destination {t : FileTree} {directory : String} {index : ℕ} {d : Destination}
    (leads : t.destination .writing (FilePath.ofText (FilePath.join directory (PngSequence.frameName index))) = .ok d) :
    t.IsFrame (some directory) d.place := by
  obtain ⟨d', unfollowed, same⟩ := destination_making leads
  obtain ⟨e, below, place⟩ := destination_below (PngSequence.isName_frameName index) unfollowed
  obtain rfl | ⟨target, isLink⟩ := same
  · rw [place]
    exact .inside below
  · rw [place] at isLink
    exact .linked below isLink leads

/-! ## Sparing is a preorder -/

theorem Spares.keepsWays (spares : Spares directory? before after) : KeepsWays before.root after.root := by
  constructor
  · intro place (there : before.get? place = some .directory)
    cases spares.spared place with
    | same here => exact here.trans there
    | frame content isFrame replaceable here => exact absurd there replaceable.free.1
    | made onTheWay missing here => exact here
  · intro place target
    change after.get? place = _ ↔ before.get? place = _
    cases spares.spared place with
    | same here => rw [here]
    | frame content isFrame replaceable here =>
      rw [here]
      exact ⟨fun link => (nomatch link), fun link => absurd link (replaceable.free.2.1 target)⟩
    | made onTheWay missing here => simp [here, missing]

section Kept

variable (working : before.working = after.working) (kept : KeepsWays before.root after.root)

include working kept

theorem exists_destination_of_kept {use : PathUse} {path : FilePath} {d : Destination}
    (leads : before.destination use path = .ok d) :
    ∃ d', after.destination use path = .ok d' ∧ d'.place = d.place := by
  obtain ⟨d', leads', named, -, alike⟩ := destination_of_kept kept working leads
  exact ⟨d', leads', place_eq_of_alike named alike⟩

theorem IsFrame.mono (isFrame : before.IsFrame directory? place) : after.IsFrame directory? place := by
  cases isFrame with
  | inside leads =>
    obtain ⟨d', leads', same⟩ := exists_destination_of_kept working kept leads
    rw [← same]
    exact .inside leads'
  | linked leads isLink further =>
    obtain ⟨d', leads', same⟩ := exists_destination_of_kept working kept leads
    obtain ⟨e', further', there⟩ := exists_destination_of_kept working kept further
    rw [← there]
    rw [← same] at isLink
    exact .linked leads' ((kept.links _ _).mpr isLink) further'

theorem IsOnTheWay.mono (onTheWay : before.IsOnTheWay directory? place) : after.IsOnTheWay directory? place := by
  obtain ⟨directory, path, d, inForce, above, leads, rfl⟩ := onTheWay
  obtain ⟨d', leads', same⟩ := exists_destination_of_kept working kept leads
  exact ⟨directory, path, d', inForce, above, leads', same.symm⟩

end Kept

theorem Spares.refl (directory? : Option String) (t : FileTree) : Spares directory? t t :=
  ⟨rfl, fun _ => .same rfl, fun _ => .inl rfl⟩

theorem Spares.trans (first : Spares directory? before between) (second : Spares directory? between after) :
    Spares directory? before after := by
  have kept := second.keepsWays
  have working := second.working.symm
  refine ⟨second.working.trans first.working, fun place => ?_, fun number => ?_⟩
  · cases second.spared place with
    | same here =>
      cases first.spared place with
      | same there => exact .same (here.trans there)
      | frame content isFrame replaceable there =>
        exact .frame content (isFrame.mono working kept) replaceable (here.trans there)
      | made onTheWay missing there => exact .made (onTheWay.mono working kept) missing (here.trans there)
    | frame content isFrame replaceable here =>
      -- what could be replaced in between could be replaced before
      cases first.spared place with
      | same there =>
        unfold IsReplaceable at replaceable
        rw [there] at replaceable
        exact .frame content isFrame replaceable here
      | frame _ _ replaceable there => exact .frame content isFrame replaceable here
      | made _ _ there => exact absurd there replaceable.free.1
    | made onTheWay missing here =>
      cases first.spared place with
      | same there => exact .made onTheWay (there.symm.trans missing) here
      | frame _ _ _ there => cases there.symm.trans missing
      | made _ _ there => cases there.symm.trans missing
  · obtain same | changed := second.shared number
    · obtain same' | ⟨place, isFrame, held⟩ := first.shared number
      · exact .inl (same.trans same')
      · refine .inr ⟨place, isFrame.mono working kept, ?_⟩
        cases second.spared place with
        | same here => exact here.trans held
        | frame _ _ replaceable _ => exact absurd held (replaceable.free.2.2 number)
        | made _ missing _ => cases held.symm.trans missing
    · exact .inr changed

/-! ## What changes for frames spare -/

theorem exists_of_makeDirectory {path : FilePath} (done : before.makeDirectory path = .ok after) :
    ∃ d name, before.destination .making path = .ok d ∧ d.name = some name ∧ before.get? d.place = none ∧
      after = before.put d.place (.directory []) := by
  unfold makeDirectory FileCursor.find at done
  simp only [bind, Except.bind] at done
  split at done
  · cases done
  next d leads =>
  split at done
  · cases done
  next name named =>
  split at done
  · cases done
  next held found =>
  split at done
  · cases done
    split at found
    · cases found
    · refine ⟨d, name, leads, named, ?_, rfl⟩
      rw [get?_place leads named, Except.ok.inj found]
      rfl
  · cases done

/-- Something new at the end of a path leaves the other places as they are. -/
theorem spares_put {use : PathUse} {path : FilePath} {d : Destination} {name : String} {node : FileNode}
    (leaf : node.IsLeaf) (leads : before.destination use path = .ok d) (named : d.name = some name)
    (replaceable : before.IsReplaceable d.place)
    (there : Spared directory? before (before.put d.place node) d.place) :
    Spares directory? before (before.put d.place node) := by
  refine ⟨rfl, fun place => ?_, fun _ => .inl rfl⟩
  by_cases atEnd : place = d.place
  · rwa [atEnd]
  · exact .same ((get?_put leaf leads named replaceable.free.1 place).trans (if_neg atEnd))

theorem spares_of_makeDirectory {directory : String} {path : FilePath}
    (onTheWay : path ∈ (FilePath.ofText directory).ancestors) (done : before.makeDirectory path = .ok after) :
    Spares (some directory) before after := by
  obtain ⟨d, name, leads, named, missing, rfl⟩ := exists_of_makeDirectory done
  have leaf : FileNode.IsLeaf (.directory []) := rfl
  have kept := keepsWays_put leaf nofun leads named (.inl missing)
  have working : before.working = (before.put d.place (.directory [])).working := rfl
  refine spares_put leaf leads named (.inl missing) (.made ?_ missing ?_)
  · exact IsOnTheWay.mono working kept ⟨directory, path, d, rfl, onTheWay, leads, rfl⟩
  · exact (get?_put leaf leads named (by simp [missing]) _).trans (if_pos rfl)

theorem spares_of_write {directory : String} {index : ℕ} {content : FileContent}
    (done : before.write (FilePath.join directory (PngSequence.frameName index)) content = .ok after) :
    Spares (some directory) before after := by
  obtain ⟨d, name, target⟩ := exists_target done
  have isFrame := isFrame_of_destination target.leads
  obtain ⟨number, held, wrote⟩ | ⟨replaceable, wrote⟩ := target.write_cases content
  · cases done.symm.trans wrote
    -- a file with several names changes under all of them, and no place does
    refine ⟨rfl, fun _ => .same rfl, fun other => ?_⟩
    by_cases same : other = number
    · have stored := target.stored wrote
      exact .inr ⟨d.place, isFrame.mono stored.working.symm stored.kept, same ▸ held⟩
    · exact .inl (if_neg same)
  · cases done.symm.trans wrote
    have leaf : FileNode.IsLeaf (.file content) := trivial
    have stored := target.stored wrote
    refine spares_put leaf target.leads target.named replaceable
      (.frame content (isFrame.mono stored.working.symm stored.kept) replaceable ?_)
    exact (get?_put leaf target.leads target.named (IsReplaceable.free replaceable).1 _).trans (if_pos rfl)

theorem spares_of_changes (changes : ReflTransGen (FrameChange directory?) before after) :
    Spares directory? before after := by
  induction changes with
  | refl => exact .refl directory? before
  | tail _ change ih =>
    cases change with
    | made onTheWay done => exact ih.trans (spares_of_makeDirectory onTheWay done)
    | written done => exact ih.trans (spares_of_write done)

theorem eq_of_changes_none (changes : ReflTransGen (FrameChange none) before after) : after = before := by
  induction changes with
  | refl => rfl
  | tail _ change _ => cases change

/-! ## What is read after the frames -/

/-- Whether the file that a path leads to is that of a frame, under this name or another. -/
def LeadsToFrame (t : FileTree) (directory? : Option String) (path : String) : Prop :=
  ∃ d place, t.destination .reading (FilePath.ofText path) = .ok d ∧ t.IsFrame directory? place ∧
    t.SameFile d.place place

/-- What can be read is read again after the frames, if the file is not that of a frame. -/
theorem Spares.read_eq (spares : Spares directory? before after) {path : String} {content : FileContent}
    (other : ¬after.LeadsToFrame directory? path) (got : before.read path = .ok content) :
    after.read path = .ok content := by
  have working := spares.working.symm
  have kept := spares.keepsWays
  refine read_eq_ok_of_kept working kept (fun d leads there => ?_) got
  obtain ⟨d', leads', place⟩ := exists_destination_of_kept working kept leads
  obtain ⟨entry, held, there⟩ := Option.bind_eq_some_iff.mp there
  cases spares.spared d.place with
  | frame _ isFrame _ _ => exact absurd ⟨d', d.place, leads', isFrame, .inl place⟩ other
  | made _ missing _ => cases held.symm.trans missing
  | same here =>
    unfold contentAt?
    rw [here, held, Option.bind_some]
    cases entry with
    | file | directory | link => exact there
    | shared number =>
      obtain same | ⟨frame, isFrame, there'⟩ := spares.shared number
      · exact (congrArg some same).trans there
      · have here' : after.get? d'.place = some (.shared number) := by rw [place, here, held]
        exact absurd ⟨d', frame, leads', isFrame, .inr ⟨number, here', there'⟩⟩ other

end FileTree

/-! ## What screens change -/

theorem changes_makeFirst {directory : String} (paths : List FilePath)
    (onTheWay : ∀ path ∈ paths, path ∈ (FilePath.ofText directory).ancestors) : ∀ t : FileTree,
      ReflTransGen (FrameChange (some directory)) t (t.makeFirst paths).2 := by
  induction paths with
  | nil => exact fun _ => .refl
  | cons path above ih =>
    intro t
    have made : ∀ {before after : FileTree}, before.makeDirectory path = .ok after →
        FrameChange (some directory) before after := .made (onTheWay path (List.mem_cons_self ..))
    have higher := ih (fun path member => onTheWay path (List.mem_cons_of_mem _ member)) t
    unfold FileTree.makeFirst
    split
    · exact .refl
    split
    · exact .single (made ‹_›)
    · split
      · next failed => rwa [failed] at higher
      · next went =>
        rw [went] at higher
        split
        · exact higher.tail (made ‹_›)
        · exact higher
    · exact .refl

theorem changes_makeDirectories (directory : String) (t : FileTree) :
    ReflTransGen (FrameChange (some directory)) t (t.makeDirectories directory).2 := by
  unfold FileTree.makeDirectories FileTree.makeAll
  split
  · exact .refl
  split
  · exact .refl
  · exact changes_makeFirst _ (fun _ => id) t

namespace PngSequence

/-- A picture with pixels is written if its path can be. If the path cannot be written nothing changes, and
else a picture without pixels leaves an empty file. -/
theorem writePicture_spec (files : FileTree) (path : String) (frame : Canvas) :
    (∃ after, (0 < frame.width ∧ 0 < frame.height) ∧ files.write path (.picture frame) = .ok after ∧
      writePicture files path frame = (.ok (), after)) ∨
    (∃ error, ¬files.Writable path ∧ writePicture files path frame = (.error error, files)) ∨
    ∃ error after, ¬(0 < frame.width ∧ 0 < frame.height) ∧ files.write path (.bytes []) = .ok after ∧
      writePicture files path frame = (.error error, after) := by
  have unwritable : ∀ {content cause}, files.write path content = .error cause → ¬files.Writable path := by
    intro content cause failed writable
    obtain ⟨_, wrote⟩ := writable.exists_write content
    cases failed.symm.trans wrote
  unfold writePicture
  dsimp only
  by_cases sized : 0 < frame.width ∧ 0 < frame.height
  · rw [if_neg sized.1.ne', if_neg sized.2.ne']
    rcases wrote : files.write path (.picture frame) with cause | after
    · exact .inr (.inl ⟨_, unwritable wrote, rfl⟩)
    · exact .inl ⟨_, sized, rfl, rfl⟩
  · rcases wrote : files.write path (.bytes []) with cause | after
    · refine .inr (.inl ⟨.file cause, unwritable wrote, ?_⟩)
      split
      · rfl
      split
      · rfl
      · omega
    · refine .inr (.inr ⟨if frame.width = 0 then .zeroWidth else .zeroHeight, after, sized, rfl, ?_⟩)
      split
      · rfl
      split
      · rfl
      · omega

/-- A frame that is taken is in the file with the next number, and is counted. One that is not taken is not
counted. It changes nothing, or has no pixels and leaves an empty file. -/
theorem blit_cases (s : PngSequence) (frame : Canvas) :
    (∃ files, (0 < frame.width ∧ 0 < frame.height) ∧
      s.files.write (s.framePath s.nextFrame) (.picture frame) = .ok files ∧
      (s.blit frame).value = (.ok (), { s with files, nextFrame := s.nextFrame + 1 })) ∨
    (∃ error, ¬s.files.Writable (s.framePath s.nextFrame) ∧ (s.blit frame).value = (.error error, s)) ∨
    ∃ error files, ¬(0 < frame.width ∧ 0 < frame.height) ∧
      s.files.write (s.framePath s.nextFrame) (.bytes []) = .ok files ∧
      (s.blit frame).value = (.error error, { s with files }) := by
  unfold blit
  dsimp only
  obtain ⟨files, sized, wrote, written⟩ | ⟨error, unwritable, failed⟩ |
      ⟨error, files, flat, emptied, failed⟩ := writePicture_spec s.files (s.framePath s.nextFrame) frame
  · refine .inl ⟨files, sized, wrote, ?_⟩
    rw [written]
    rfl
  · refine .inr (.inl ⟨.render (.frameNotWritten (s.framePath s.nextFrame) error), unwritable, ?_⟩)
    rw [failed]
    rfl
  · refine .inr (.inr ⟨.render (.frameNotWritten (s.framePath s.nextFrame) error), files, flat, emptied, ?_⟩)
    rw [failed]
    rfl

theorem value_blit_of_write {s : PngSequence} {frame : Canvas} {files : FileTree}
    (sized : 0 < frame.width ∧ 0 < frame.height)
    (wrote : s.files.write (s.framePath s.nextFrame) (.picture frame) = .ok files) :
    (s.blit frame).value = (.ok (), { s with files, nextFrame := s.nextFrame + 1 }) := by
  obtain ⟨files', -, wrote', written⟩ | ⟨error, unwritable, -⟩ | ⟨error, files', flat, -, -⟩ :=
    s.blit_cases frame
  · cases wrote.symm.trans wrote'
    exact written
  · exact absurd ⟨_, _, wrote⟩ unwritable
  · exact absurd sized flat

theorem value_blit_of_unwritable {s : PngSequence} (unwritable : ¬s.files.Writable (s.framePath s.nextFrame))
    (frame : Canvas) : ∃ error, (s.blit frame).value = (.error error, s) := by
  obtain ⟨files, -, wrote, -⟩ | ⟨error, -, failed⟩ | ⟨error, files, -, emptied, -⟩ := s.blit_cases frame
  · exact absurd ⟨_, _, wrote⟩ unwritable
  · exact ⟨error, failed⟩
  · exact absurd ⟨_, _, emptied⟩ unwritable

/-- Frames go to the directory of the screen, taken or not. -/
theorem changes_blit (s : PngSequence) (frame : Canvas) :
    (s.blit frame).value.2.directory = s.directory ∧
      ReflTransGen (FrameChange (some s.directory)) s.files (s.blit frame).value.2.files := by
  obtain ⟨files, -, wrote, written⟩ | ⟨error, -, failed⟩ | ⟨error, files, -, emptied, failed⟩ :=
    s.blit_cases frame
  · rw [written]
    exact ⟨rfl, .single (.written wrote)⟩
  · rw [failed]
    exact ⟨rfl, .refl⟩
  · rw [failed]
    exact ⟨rfl, .single (.written emptied)⟩

end PngSequence

namespace ConfiguredScreen

variable {windows : WindowSystem}

/-- The directory that the frames go to, if they go to one. -/
def directory? : ConfiguredScreen windows → Option String
  | .pictures screen => some screen.directory
  | .window _ => none
  | .memory _ => none

/-- A screen that was opened draws where the settings say, on the tree that is returned. -/
theorem changes_create (settings : DisplaySettings) (files : FileTree) :
    ReflTransGen (FrameChange settings.framesDirectory) files (create settings files windows).value.2 ∧
      ∀ screen, (create settings files windows).value.1 = .ok screen →
        screen.directory? = settings.framesDirectory ∧
        screen.filesAfter (create settings files windows).value.2 = (create settings files windows).value.2 := by
  unfold create
  rcases settings.framesDirectory with _ | directory
  · dsimp only
    split
    · rw [Logged.value_bind]
      rcases (windows.openWindow settings.title settings.width settings.height).value with error | window
      · exact ⟨.refl, fun _ refused => nomatch refused⟩
      · refine ⟨.refl, fun screen opened => ?_⟩
        cases opened
        exact ⟨rfl, rfl⟩
    · refine ⟨.refl, fun screen opened => ?_⟩
      cases opened
      exact ⟨rfl, rfl⟩
  · have changes := changes_makeDirectories directory files
    dsimp only
    rw [Logged.value_bind]
    unfold PngSequence.create
    rcases made : files.makeDirectories directory with ⟨error | _, after⟩
    · rw [made] at changes
      exact ⟨changes, fun _ refused => nomatch refused⟩
    · rw [made] at changes
      refine ⟨changes, fun screen opened => ?_⟩
      cases opened
      exact ⟨rfl, rfl⟩

theorem changes_blit (screen : ConfiguredScreen windows) (frame : Canvas) (files : FileTree) :
    (Screen.blit screen frame).value.2.directory? = screen.directory? ∧
      ReflTransGen (FrameChange screen.directory?) (screen.filesAfter files)
        ((Screen.blit screen frame).value.2.filesAfter files) := by
  cases screen with
  | pictures screen =>
    obtain ⟨same, changes⟩ := screen.changes_blit frame
    exact ⟨congrArg some same, changes⟩
  | window screen => exact ⟨rfl, .refl⟩
  | memory screen => exact ⟨rfl, .refl⟩

end ConfiguredScreen

/-- What a scope changes over any turns. -/
theorem Scope.changes_showingAll {windows : WindowSystem} {ε σ ρ : Type} (turns : List (Turn ε σ ρ))
    (files : FileTree) :
    ∀ s : Scope (ConfiguredScreen windows), ReflTransGen (FrameChange s.screen.directory?) (s.screen.filesAfter files)
      ((s.showingAll turns).screen.filesAfter files) := by
  induction turns with
  | nil => exact fun _ => .refl
  | cons t rest ih =>
    intro s
    have now : (s.showing t.blit).screen.directory? = s.screen.directory? ∧
        ReflTransGen (FrameChange s.screen.directory?) (s.screen.filesAfter files)
          ((s.showing t.blit).screen.filesAfter files) := by
      cases t.blit with
      | none => exact ⟨rfl, .refl⟩
      | some b => exact s.screen.changes_blit b.frame files
    have later := ih (s.showing t.blit)
    rw [now.1] at later
    exact now.2.trans later

end BufferScope
