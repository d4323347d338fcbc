/-
Writing a file and reading it back. Whether a path can be written does not depend on what is written
there, and what was written is what reading the same path gives (`FileTree.read_write`): a write leaves
every directory and every link where it was, so the path leads to the same place as before. What is read
from paths that lead to other files is as it was (`FileTree.read_write_of_apart`).
-/
import BufferScope.Proofs.Files.Places

namespace BufferScope

open FileCursor (IsIn)

namespace FileCursor

theorem link?_eq_some_iff {c : FileCursor} {name target : String} :
    c.link? name = some target ↔ name.utf8ByteSize ≤ 255 ∧ c.entries.get? name = some (.link target) := by
  unfold link? find
  by_cases long : 255 < name.utf8ByteSize
  · rw [if_pos long]
    simp [Nat.not_le.mpr long]
  · rw [if_neg long]
    have short := Nat.not_lt.mp long
    cases held : c.entries.get? name with
    | none => simp
    | some node =>
      cases node with
      | link other => simp [short]
      | file | shared | directory => simp

/-! ## The same way in two trees -/

/-- Two directories at one place of two trees. -/
structure Alike (root root' : FileEntries) (c c' : FileCursor) : Prop where
  names : c.above.map (·.1) = c'.above.map (·.1)
  inside : IsIn root c.entries c.above
  inside' : IsIn root' c'.entries c'.above

/-- Whether each directory of one tree is at the same place of another, and the links are the same. -/
structure KeepsWays (root root' : FileEntries) : Prop where
  directories : ∀ place, root.entryAt? place = some .directory → root'.entryAt? place = some .directory
  links : ∀ place target, root'.entryAt? place = some (.link target) ↔ root.entryAt? place = some (.link target)

variable {root root' : FileEntries} {c c' d : FileCursor}

theorem Alike.place_eq (alike : Alike root root' c c') : c.place = c'.place := congrArg List.reverse alike.names

theorem Alike.up (alike : Alike root root' c c') : Alike root root' c.up c'.up := by
  refine ⟨?_, isIn_up alike.inside, isIn_up alike.inside'⟩
  obtain ⟨names, -, -⟩ := alike
  obtain ⟨entries, above⟩ := c
  obtain ⟨entries', above'⟩ := c'
  cases above <;> cases above' <;> simp_all [FileCursor.up]

theorem Alike.enter (kept : KeepsWays root root') (alike : Alike root root' c c') {name : String}
    (entered : c.enter name = .ok d) : ∃ d', c'.enter name = .ok d' ∧ Alike root root' d d' := by
  obtain ⟨short, inner, held, rfl⟩ := enter_eq_ok_iff.mp entered
  have here := entry_find alike.inside name
  rw [held, alike.place_eq] at here
  have there := kept.directories _ here.symm
  rw [← entry_find alike.inside' name] at there
  obtain ⟨node, held', entry⟩ := Option.map_eq_some_iff.mp there
  cases node with
  | file | shared | link => cases entry
  | directory inner' =>
    exact ⟨_, enter_eq_ok_iff.mpr ⟨short, inner', held', rfl⟩, by simp [alike.names], ⟨held, alike.inside⟩,
      ⟨held', alike.inside'⟩⟩

theorem Alike.descend (kept : KeepsWays root root') {names : FilePlace} (alike : Alike root root' c c')
    (descended : c.descend names = .ok d) : ∃ d', c'.descend names = .ok d' ∧ Alike root root' d d' := by
  induction names generalizing c c' with
  | nil =>
    cases descended
    exact ⟨c', rfl, alike⟩
  | cons name rest ih =>
    unfold FileCursor.descend at descended ⊢
    split at descended
    · cases descended
    · next entered =>
      obtain ⟨next', entered', alike⟩ := alike.enter kept entered
      rw [entered']
      exact ih alike descended

theorem link?_eq_some_iff_entryAt? (inside : IsIn root c.entries c.above) {name target : String} :
    c.link? name = some target ↔
      name.utf8ByteSize ≤ 255 ∧ root.entryAt? (c.place ++ [name]) = some (.link target) := by
  rw [link?_eq_some_iff, ← entry_find inside, Option.map_eq_some_iff]
  refine and_congr_right fun _ => ⟨fun held => ⟨_, held, rfl⟩, ?_⟩
  rintro ⟨node, held, entry⟩
  cases node with
  | link other =>
    cases entry
    exact held
  | file | shared | directory => cases entry

theorem Alike.link?_eq (kept : KeepsWays root root') (alike : Alike root root' c c') (name : String) :
    c'.link? name = c.link? name := by
  refine Option.ext fun target => ?_
  rw [link?_eq_some_iff_entryAt? alike.inside, link?_eq_some_iff_entryAt? alike.inside', ← alike.place_eq, kept.links]

/-- Steps that come to the same in two trees. -/
inductive SameStep (root root' : FileEntries) : Step → Step → Prop
  | ended : SameStep root root' .ended .ended
  | linked (target : String) : SameStep root root' (.linked target) (.linked target)
  | entered {c c' : FileCursor} (alike : Alike root root' c c') : SameStep root root' (.entered c) (.entered c')

theorem Alike.step (kept : KeepsWays root root') {name : String} {isLast followLast : Bool} {s : Step}
    (alike : Alike root root' c c') (stepped : c.step name isLast followLast = .ok s) :
    ∃ s', c'.step name isLast followLast = .ok s' ∧ SameStep root root' s s' := by
  have same := alike.link?_eq kept name
  by_cases point : name = "." ∨ name = ".."
  · rw [step_of_point c _ _ point] at stepped
    cases stepped
    refine ⟨_, step_of_point c' _ _ point, .entered ?_⟩
    split
    · exact alike
    · exact alike.up
  rcases linked : c.link? name with _ | target
  · rw [step_of_unlinked c _ _ point linked] at stepped
    rw [step_of_unlinked c' _ _ point (same.trans linked)]
    cases isLast with
    | true =>
      cases stepped
      exact ⟨_, rfl, .ended⟩
    | false =>
      rw [if_neg Bool.false_ne_true] at stepped ⊢
      rcases entered : c.enter name with e | next
      · rw [entered] at stepped
        cases stepped
      · rw [entered] at stepped
        cases stepped
        obtain ⟨next', entered', alike⟩ := alike.enter kept entered
        rw [entered']
        exact ⟨_, rfl, .entered alike⟩
  · rw [step_of_link c _ _ point linked] at stepped
    cases stepped
    refine ⟨_, step_of_link c' _ _ point (same.trans linked), ?_⟩
    split
    · exact .ended
    · exact .linked target

/-- Progress that is the same in two trees. -/
inductive SameProgress (root root' : FileEntries) : Progress → Progress → Prop
  | ended {c c' : FileCursor} (alike : Alike root root' c c') (name : Option String) :
    SameProgress root root' (.ended c name) (.ended c' name)
  | linked {c c' : FileCursor} (alike : Alike root root' c c') (target : String) (rest : List String) :
    SameProgress root root' (.linked c target rest) (.linked c' target rest)

theorem Alike.advance (kept : KeepsWays root root') {followLast : Bool} {steps : List String} {p : Progress}
    (alike : Alike root root' c c') (advanced : c.advance followLast steps = .ok p) :
    ∃ p', c'.advance followLast steps = .ok p' ∧ SameProgress root root' p p' := by
  induction steps generalizing c c' with
  | nil =>
    cases advanced
    exact ⟨_, rfl, .ended alike none⟩
  | cons name rest ih =>
    unfold FileCursor.advance at advanced ⊢
    rcases stepped : c.step name rest.isEmpty followLast with e | s
    · rw [stepped] at advanced
      cases advanced
    obtain ⟨s', stepped', same⟩ := alike.step kept stepped
    rw [stepped] at advanced
    rw [stepped']
    cases same with
    | ended =>
      cases advanced
      exact ⟨_, rfl, .ended alike _⟩
    | linked target =>
      cases advanced
      exact ⟨_, rfl, .linked alike target rest⟩
    | entered alike => exact ih alike advanced

end FileCursor

namespace FileTree

open FileCursor (Alike KeepsWays SameProgress)

/-! ## Where a path leads -/

/-- In either tree a path begins at the root, or in the directory that it is in. -/
theorem startOf_alike {t t' : FileTree} {c c' : FileCursor} (alike : Alike t.root t'.root c c') (path : FilePath) :
    Alike t.root t'.root (t.startOf c path) (t'.startOf c' path) := by
  unfold startOf
  split
  · exact ⟨rfl, rfl, rfl⟩
  · exact alike

section Kept

variable {t t' : FileTree} {use : PathUse} (kept : KeepsWays t.root t'.root)

include kept

theorem Leads.of_kept {d : Destination} {links : Nat} {slash : Bool} {c : FileCursor} {steps : List String}
    (leads : Leads t use d links slash c steps) : ∀ {c' : FileCursor}, Alike t.root t'.root c c' →
      ∃ d', Leads t' use d' links slash c' steps ∧ d'.name = d.name ∧ d'.slash = d.slash ∧
        Alike t.root t'.root d.directory d'.directory := by
  induction leads with
  | ended advanced =>
    intro c' alike
    obtain ⟨_, advanced', same⟩ := alike.advance kept advanced
    cases same with
    | @ended _ directory' alike => exact ⟨⟨directory', d.name, d.slash⟩, .ended advanced', rfl, rfl, alike⟩
  | linked advanced sound further ih =>
    intro c' alike
    obtain ⟨_, advanced', same⟩ := alike.advance kept advanced
    cases same with
    | @linked _ directory' alike =>
      obtain ⟨d', leads, same⟩ := ih (startOf_alike alike _)
      exact ⟨d', .linked advanced' sound leads, same⟩

/-- A path leads to the same place after the tree changed, if its directories and links are still there. -/
theorem destination_of_kept (working : t.working = t'.working) {path : FilePath} {d : Destination}
    (leads : t.destination use path = .ok d) :
    ∃ d', t'.destination use path = .ok d' ∧ d'.name = d.name ∧ d'.slash = d.slash ∧
      Alike t.root t'.root d.directory d'.directory := by
  have start : Alike t.root t'.root ⟨t.root, []⟩ ⟨t'.root, []⟩ := ⟨rfl, rfl, rfl⟩
  obtain ⟨first, started, leads⟩ := destination_eq_ok_iff.mp leads
  obtain ⟨first', started', alike⟩ := start.descend kept started
  obtain ⟨d', leads', same⟩ := leads.of_kept kept alike
  exact ⟨d', destination_eq_ok_iff.mpr ⟨first', working ▸ started', leads'⟩, same⟩

end Kept

/-- A slash at the end of a path, or of a link at its end, is not forgotten. -/
theorem Leads.slash_le {t : FileTree} {use : PathUse} {d : Destination} {links : Nat} {slash : Bool} {c : FileCursor}
    {steps : List String} (leads : Leads t use d links slash c steps) (noSlash : d.slash = false) : slash = false := by
  induction leads with
  | ended => exact noSlash
  | linked _ _ _ ih => exact (Bool.or_eq_false_iff.mp ih).1

/-- A path that leads to a file to write leads there when it is read. -/
theorem Leads.reading {t : FileTree} {d : Destination} {links : Nat} {slash : Bool} {c : FileCursor}
    {steps : List String} (leads : Leads t .writing d links slash c steps) (noSlash : d.slash = false) :
    Leads t .reading d links slash c steps := by
  -- the two uses differ after a slash only, and the end would show one
  have same : ∀ {slash}, slash = false →
      PathUse.followsLast .writing slash = PathUse.followsLast .reading slash := by
    rintro _ rfl
    rfl
  induction leads with
  | ended advanced => exact .ended (same noSlash ▸ advanced)
  | linked advanced sound further ih =>
    have before := (Bool.or_eq_false_iff.mp (further.slash_le noSlash)).1
    exact .linked (same before ▸ advanced) sound ih

theorem locate_reading_of_writing {t : FileTree} {path : FilePath} {d : Destination}
    (located : t.locate .writing path = .ok d) (noSlash : d.slash = false) : t.locate .reading path = .ok d := by
  obtain ⟨sound, leads⟩ := locate_eq_ok_iff.mp located
  obtain ⟨first, started, leads⟩ := destination_eq_ok_iff.mp leads
  exact locate_eq_ok_iff.mpr ⟨sound, destination_eq_ok_iff.mpr ⟨first, started, leads.reading noSlash⟩⟩

theorem place_eq_of_alike {root root' : FileEntries} {d d' : Destination} (named : d'.name = d.name)
    (alike : Alike root root' d.directory d'.directory) : d'.place = d.place := by
  unfold Destination.place
  rw [named, alike.place_eq]

/-! ## Writing -/

/-- A path that can be written: it leads to a name in a directory, and what has that name is no
directory itself, and no link either, as one would have been followed. -/
structure Target (t : FileTree) (path : String) (d : Destination) (name : String) : Prop where
  located : t.locate .writing (FilePath.ofText path) = .ok d
  named : d.name = some name
  noSlash : d.slash = false
  short : name.utf8ByteSize ≤ 255
  free : ∀ inner, d.directory.entries.get? name ≠ some (.directory inner)
  followed : ∀ target, d.directory.entries.get? name ≠ some (.link target)

theorem exists_target {t written : FileTree} {path : String} {content : FileContent}
    (wrote : t.write path content = .ok written) : ∃ d name, t.Target path d name := by
  unfold write at wrote
  simp only [bind, Except.bind] at wrote
  split at wrote
  · cases wrote
  next d located =>
  split at wrote
  · cases wrote
  next name named =>
  split at wrote
  · cases wrote
  next noSlash =>
  split at wrote
  · cases wrote
  next held found =>
  unfold FileCursor.find at found
  split at found
  · cases found
  next long =>
  cases found
  have short := Nat.le_of_not_lt long
  have noSlash := Bool.eq_false_iff.mpr noSlash
  split at wrote
  · cases wrote
  · cases wrote
  · next number held => exact ⟨d, name, located, named, noSlash, short, by simp [held], by simp [held]⟩
  · next notDirectory notLink _ => exact ⟨d, name, located, named, noSlash, short, notDirectory, notLink⟩

namespace Target

variable {t after : FileTree} {path : String} {d : Destination} {name : String} (target : t.Target path d name)

include target

theorem leads : t.destination .writing (FilePath.ofText path) = .ok d := (locate_eq_ok_iff.mp target.located).2

/-- A write changes what a file with several names holds, or puts a new file where none was or an old one. -/
theorem write_cases (content : FileContent) :
    (∃ number, t.get? d.place = some (.shared number) ∧ t.write path content = .ok (t.setShared number content)) ∨
    ((t.get? d.place = none ∨ ∃ old, t.get? d.place = some (.file old)) ∧
      t.write path content = .ok (t.put d.place (.file content))) := by
  rw [get?_place target.leads target.named]
  obtain ⟨located, named, noSlash, short, free, followed⟩ := target
  unfold write FileCursor.find
  simp only [bind, Except.bind, located, named, noSlash, if_neg (Nat.not_lt.mpr short), Bool.false_eq_true, if_false]
  cases held : d.directory.entries.get? name with
  | none => exact .inr ⟨.inl rfl, rfl⟩
  | some node =>
    cases node with
    | file old => exact .inr ⟨.inr ⟨old, rfl⟩, rfl⟩
    | directory inner => exact absurd held (free inner)
    | shared number => exact .inl ⟨number, rfl, rfl⟩
    | link target => exact absurd held (followed target)

theorem writable_of (content : FileContent) : ∃ written, t.write path content = .ok written := by
  obtain ⟨number, -, wrote⟩ | ⟨-, wrote⟩ := target.write_cases content
  · exact ⟨_, wrote⟩
  · exact ⟨_, wrote⟩

end Target

/-- A path where some content can be written. -/
def Writable (t : FileTree) (path : String) : Prop := ∃ content written, t.write path content = .ok written

/-- What is written does not matter to whether it can be. -/
theorem Writable.exists_write {t : FileTree} {path : String} (writable : t.Writable path) (content : FileContent) :
    ∃ written, t.write path content = .ok written := by
  obtain ⟨_, _, wrote⟩ := writable
  obtain ⟨d, name, target⟩ := exists_target wrote
  exact target.writable_of content

theorem Target.writable {t : FileTree} {path : String} {d : Destination} {name : String}
    (target : t.Target path d name) : t.Writable path := ⟨.bytes [], target.writable_of (.bytes [])⟩

/-- Whether a new file can take a place: there is none, or one that has no other name. -/
def IsReplaceable (t : FileTree) (place : FilePlace) : Prop :=
  t.get? place = none ∨ ∃ old, t.get? place = some (.file old)

theorem IsReplaceable.free {t : FileTree} {place : FilePlace} (replaceable : t.IsReplaceable place) :
    t.get? place ≠ some .directory ∧ (∀ target, t.get? place ≠ some (.link target)) ∧
      ∀ number, t.get? place ≠ some (.shared number) := by
  obtain missing | ⟨old, held⟩ := replaceable
  · simp [missing]
  · simp [held]

/-- A new file or directory keeps every directory and every link, where it takes the place of none. -/
theorem keepsWays_put {t : FileTree} {use : PathUse} {path : FilePath} {d : Destination} {name : String}
    {node : FileNode} (leaf : node.IsLeaf) (noLink : ∀ target, node.entry ≠ .link target)
    (leads : t.destination use path = .ok d) (named : d.name = some name) (replaceable : t.IsReplaceable d.place) :
    KeepsWays t.root (t.put d.place node).root := by
  obtain ⟨free, unlinked, -⟩ := replaceable.free
  have put := get?_put leaf leads named free
  constructor
  · intro other (here : t.get? other = some .directory)
    refine (put other).trans ?_
    split
    · next atEnd => exact absurd (atEnd ▸ here) free
    · exact here
  · intro other target
    change (t.put d.place node).get? other = _ ↔ t.get? other = _
    rw [put other]
    split
    · next atEnd =>
      rw [atEnd]
      exact ⟨fun same => absurd (Option.some.inj same) (noLink target), fun held => absurd held (unlinked target)⟩
    · exact Iff.rfl

/-- Whether two places are those of one file. -/
def SameFile (t : FileTree) (place other : FilePlace) : Prop :=
  place = other ∨ ∃ number, t.get? place = some (.shared number) ∧ t.get? other = some (.shared number)

/-- What a write of some content to a place leaves: the same directories and links, the content in the file at that
place, whatever its name, and the same in all other files. -/
structure Stored (before after : FileTree) (place : FilePlace) (content : FileContent) : Prop where
  working : after.working = before.working
  kept : KeepsWays before.root after.root
  keptBack : KeepsWays after.root before.root
  here : after.contentAt? place = some content
  elsewhere : ∀ other, ¬before.SameFile other place → after.contentAt? other = before.contentAt? other

theorem Target.stored {t written : FileTree} {path : String} {d : Destination} {name : String}
    (target : t.Target path d name) {content : FileContent} (wrote : t.write path content = .ok written) :
    Stored t written d.place content := by
  obtain ⟨number, held, done⟩ | ⟨replaceable, done⟩ := target.write_cases content
  · cases wrote.symm.trans done
    have same : KeepsWays t.root t.root := ⟨fun _ => id, fun _ _ => Iff.rfl⟩
    refine ⟨rfl, same, same, ?_, fun other apart => ?_⟩
    · change (t.get? d.place).bind (t.setShared number content).contentOf? = _
      rw [held]
      exact congrArg some (if_pos rfl)
    · have apart : t.get? other ≠ some (.shared number) := fun there => apart (.inr ⟨number, there, held⟩)
      change (t.get? other).bind (t.setShared number content).contentOf? = (t.get? other).bind t.contentOf?
      refine Option.bind_congr fun entry there => ?_
      cases entry with
      | shared number' =>
        have differs : number' ≠ number := fun same => apart (same ▸ there)
        exact congrArg some (if_neg differs)
      | file | directory | link => rfl
  · cases wrote.symm.trans done
    obtain ⟨free, unlinked, -⟩ := IsReplaceable.free replaceable
    have leaf : FileNode.IsLeaf (.file content) := trivial
    have put := get?_put leaf target.leads target.named free
    have kept := keepsWays_put leaf nofun target.leads target.named replaceable
    have keptBack : KeepsWays (t.put d.place (.file content)).root t.root := by
      refine ⟨fun other there => ?_, fun other link => (kept.links other link).symm⟩
      have here := (put other).symm.trans there
      split at here
      · cases here
      · exact here
    refine ⟨rfl, kept, keptBack, ?_, fun other apart => ?_⟩
    · unfold contentAt?
      rw [put, if_pos rfl]
      rfl
    · unfold contentAt?
      rw [put, if_neg fun same => apart (.inl same)]
      rfl

/-! ## Reading -/

/-- A file is read where a path leads to it and may mean a file. -/
theorem read_eq_ok_iff {t : FileTree} {path : String} {content : FileContent} :
    t.read path = .ok content ↔ ∃ d name, t.locate .reading (FilePath.ofText path) = .ok d ∧
      d.name = some name ∧ d.slash = false ∧ name.utf8ByteSize ≤ 255 ∧
      t.contentAt? d.place = some content := by
  have content_eq : ∀ {d name}, t.locate .reading (FilePath.ofText path) = .ok d → d.name = some name →
      t.contentAt? d.place = (d.directory.entries.get? name).bind fun node => t.contentOf? node.entry := by
    intro d name located named
    unfold contentAt?
    rw [get?_place (locate_eq_ok_iff.mp located).2 named, Option.bind_map]
    rfl
  constructor
  · intro got
    unfold read at got
    simp only [bind, Except.bind] at got
    split at got
    · cases got
    next d located =>
    split at got
    · cases got
    next name named =>
    split at got
    · cases got
    next held found =>
    unfold FileCursor.find at found
    split at found
    · cases found
    next short =>
    cases found
    split at got
    · cases got
    next node held =>
    split at got
    · cases got
    next there =>
    split at got
    · cases got
    next noSlash =>
    cases got
    refine ⟨d, name, located, named, Bool.eq_false_iff.mpr noSlash, Nat.le_of_not_lt short, ?_⟩
    rw [content_eq located named, held]
    exact there
  · rintro ⟨d, name, located, named, noSlash, short, there⟩
    rw [content_eq located named] at there
    obtain ⟨node, held, there⟩ := Option.bind_eq_some_iff.mp there
    unfold read FileCursor.find
    simp only [bind, Except.bind, located, named, if_neg (Nat.not_lt.mpr short), held, there, noSlash,
      Bool.false_eq_true, if_false]

/-- What can be read is read again, if the directories and the links are still there and the file is. -/
theorem read_eq_ok_of_kept {before after : FileTree} {path : String} {content : FileContent}
    (working : before.working = after.working) (kept : KeepsWays before.root after.root)
    (still : ∀ d, before.destination .reading (FilePath.ofText path) = .ok d →
      before.contentAt? d.place = some content → after.contentAt? d.place = some content)
    (got : before.read path = .ok content) : after.read path = .ok content := by
  obtain ⟨d, name, located, named, noSlash, short, there⟩ := read_eq_ok_iff.mp got
  obtain ⟨sound, leads⟩ := locate_eq_ok_iff.mp located
  obtain ⟨d', leads', named', slash', alike⟩ := destination_of_kept kept working leads
  refine read_eq_ok_iff.mpr ⟨d', name, locate_eq_ok_iff.mpr ⟨sound, leads'⟩, named'.trans named,
    slash'.trans noSlash, short, ?_⟩
  rw [place_eq_of_alike named' alike]
  exact still d leads there

/-- What was written is what is read. -/
theorem read_write {t written : FileTree} {path : String} {content : FileContent}
    (wrote : t.write path content = .ok written) : written.read path = .ok content := by
  obtain ⟨d, name, target⟩ := exists_target wrote
  have stored := target.stored wrote
  obtain ⟨sound, leads⟩ := locate_eq_ok_iff.mp (locate_reading_of_writing target.located target.noSlash)
  obtain ⟨d', leads', named', slash', alike⟩ := destination_of_kept stored.kept stored.working.symm leads
  refine read_eq_ok_iff.mpr ⟨d', name, locate_eq_ok_iff.mpr ⟨sound, leads'⟩, named'.trans target.named,
    slash'.trans target.noSlash, target.short, ?_⟩
  rw [place_eq_of_alike named' alike]
  exact stored.here

/-- A write changes nothing that is read from other files. -/
theorem read_write_of_apart {before after : FileTree} {path other : String} {content : FileContent}
    (wrote : before.write path content = .ok after)
    (apart : ∀ d e, before.destination .writing (FilePath.ofText path) = .ok d →
      before.destination .reading (FilePath.ofText other) = .ok e → ¬before.SameFile e.place d.place)
    (held : FileContent) : after.read other = .ok held ↔ before.read other = .ok held := by
  obtain ⟨d, name, target⟩ := exists_target wrote
  have stored := target.stored wrote
  constructor
  · refine read_eq_ok_of_kept stored.working stored.keptBack fun e' leadsAfter there => ?_
    obtain ⟨e, leadsOther, named', -, alike⟩ := destination_of_kept stored.keptBack stored.working leadsAfter
    have elsewhere := apart d e target.leads leadsOther
    rw [place_eq_of_alike named' alike] at elsewhere
    exact (stored.elsewhere e'.place elsewhere).symm.trans there
  · refine read_eq_ok_of_kept stored.working.symm stored.kept fun e leadsOther there => ?_
    exact (stored.elsewhere e.place (apart d e target.leads leadsOther)).trans there

theorem readText_write {t written : FileTree} {path text : String}
    (wrote : t.write path (.bytes (textBytes text)) = .ok written) : written.readText path = .ok text := by
  have valid : String.fromUTF8? ⟨(textBytes text).toArray⟩ = some text := by
    unfold textBytes String.fromUTF8?
    rw [Array.toArray_toList]
    split
    · rfl
    · next invalid => exact absurd text.isValidUTF8 invalid
  unfold readText
  simp only [bind, Except.bind, read_write wrote, FileContent.toBytes, valid]
  rfl

end FileTree

end BufferScope
