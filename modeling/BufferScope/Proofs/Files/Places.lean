/-
Places of a tree. What a path leads to is at a place, and what is put there changes that place and no
other (`FileTree.get?_put`). `Leads` is how a path comes there, link by link.
-/
import BufferScope.Files

namespace BufferScope

/-! ## Places and directories -/

namespace FileEntries

theorem nodeAt?_append {place : FilePlace} : ∀ {root inner : FileEntries},
    root.nodeAt? place = some (.directory inner) → ∀ rest : FilePlace,
      root.nodeAt? (place ++ rest) = inner.nodeAt? rest := by
  induction place with
  | nil =>
    intro root inner here rest
    cases here
    rfl
  | cons name above ih =>
    intro root inner here rest
    rw [List.cons_append, nodeAt?]
    rw [nodeAt?] at here
    split at here
    · exact ih here rest
    · next notDirectory =>
      split at here
      · exact absurd here (notDirectory inner)
      · cases here

theorem nodeAt?_singleton (es : FileEntries) (name : String) : es.nodeAt? [name] = es.get? name := by
  unfold nodeAt?
  split
  · next held => rw [held]; rfl
  · rfl

end FileEntries

namespace FileCursor

/-- Whether a directory is one of those below a root, or the root itself. -/
def IsIn (root : FileEntries) : FileEntries → List (String × FileEntries) → Prop
  | entries, [] => entries = root
  | entries, (name, outer) :: above => outer.get? name = some (.directory entries) ∧ IsIn root outer above

theorem isIn_up {root : FileEntries} {c : FileCursor} (h : IsIn root c.entries c.above) :
    IsIn root c.up.entries c.up.above := by
  obtain ⟨entries, above⟩ := c
  cases above with
  | nil => exact h
  | cons outer above => exact h.2

/-- A directory that was entered is in the one before, under a name that is not too long. -/
theorem enter_eq_ok_iff {c d : FileCursor} {name : String} : c.enter name = .ok d ↔
    name.utf8ByteSize ≤ 255 ∧ ∃ inner, c.entries.get? name = some (.directory inner) ∧
      d = ⟨inner, (name, c.entries) :: c.above⟩ := by
  unfold enter find
  by_cases long : 255 < name.utf8ByteSize
  · rw [if_pos long]
    simp [bind, Except.bind, Nat.not_le.mpr long]
  · rw [if_neg long]
    have short := Nat.not_lt.mp long
    cases held : c.entries.get? name with
    | none => simp [bind, Except.bind]
    | some node =>
      cases node with
      | directory inner => simp [bind, Except.bind, short, eq_comm]
      | file | shared | link => simp [bind, Except.bind]

theorem isIn_enter {root : FileEntries} {c d : FileCursor} {name : String} (h : IsIn root c.entries c.above)
    (entered : c.enter name = .ok d) : IsIn root d.entries d.above := by
  obtain ⟨-, inner, held, rfl⟩ := enter_eq_ok_iff.mp entered
  exact ⟨held, h⟩

theorem isIn_descend {root : FileEntries} {names : FilePlace} {c d : FileCursor} (h : IsIn root c.entries c.above)
    (descended : c.descend names = .ok d) : IsIn root d.entries d.above := by
  induction names generalizing c with
  | nil => cases descended; exact h
  | cons name rest ih =>
    unfold descend at descended
    split at descended
    · cases descended
    · next next entered => exact ih (isIn_enter h entered) descended

section Step

variable (c : FileCursor) {name : String} (isLast followLast : Bool)

/-- A point stays in the directory, and two lead to the one above. -/
theorem step_of_point (point : name = "." ∨ name = "..") :
    c.step name isLast followLast = .ok (.entered (if name = "." then c else c.up)) := by
  unfold step
  obtain rfl | rfl := point
  · rfl
  · rfl

variable (noPoint : ¬(name = "." ∨ name = ".."))

include noPoint

theorem step_of_link {target : String} (linked : c.link? name = some target) :
    c.step name isLast followLast = .ok (if isLast && !followLast then .ended else .linked target) := by
  unfold step
  rw [if_neg fun point => noPoint (.inl point), if_neg fun points => noPoint (.inr points), linked]

theorem step_of_unlinked (unlinked : c.link? name = none) :
    c.step name isLast followLast = if isLast then .ok .ended else (c.enter name).map .entered := by
  unfold step
  rw [if_neg fun point => noPoint (.inl point), if_neg fun points => noPoint (.inr points), unlinked]

end Step

theorem isIn_step {root : FileEntries} {c next : FileCursor} {name : String} {isLast followLast : Bool}
    (h : IsIn root c.entries c.above) (entered : c.step name isLast followLast = .ok (.entered next)) :
    IsIn root next.entries next.above := by
  by_cases point : name = "." ∨ name = ".."
  · rw [step_of_point c _ _ point] at entered
    cases entered
    split
    · exact h
    · exact isIn_up h
  rcases linked : c.link? name with _ | target
  · rw [step_of_unlinked c _ _ point linked] at entered
    split at entered
    · cases entered
    · cases went : c.enter name with
      | error e => rw [went] at entered; cases entered
      | ok d => rw [went] at entered; cases entered; exact isIn_enter h went
  · rw [step_of_link c _ _ point linked] at entered
    split at entered <;> cases entered

/-- The directory that steps come to. -/
def Progress.directory : Progress → FileCursor
  | .ended directory _ => directory
  | .linked directory _ _ => directory

theorem isIn_advance {root : FileEntries} {followLast : Bool} {steps : List String} {c : FileCursor} {p : Progress}
    (h : IsIn root c.entries c.above) (advanced : c.advance followLast steps = .ok p) :
    IsIn root p.directory.entries p.directory.above := by
  induction steps generalizing c with
  | nil => cases advanced; exact h
  | cons name rest ih =>
    unfold advance at advanced
    split at advanced
    · cases advanced
    · cases advanced; exact h
    · cases advanced; exact h
    · next next entered => exact ih (isIn_step h entered) advanced

/-- What is free in a directory is free in the tree. -/
theorem isFree_place_append {root entries : FileEntries} {above : List (String × FileEntries)} {place : FilePlace}
    (h : IsIn root entries above) (free : FileEntries.IsFree place entries) :
    FileEntries.IsFree (FileCursor.place ⟨entries, above⟩ ++ place) root := by
  induction above generalizing entries place with
  | nil => simpa [FileCursor.place, show entries = root from h] using free
  | cons outer above ih =>
    obtain ⟨name, outer⟩ := outer
    have outside : FileEntries.IsFree (name :: place) outer := by
      cases place with
      | nil => exact free.elim
      | cons next rest => exact ⟨entries, h.1, free⟩
    simpa [FileCursor.place] using ih h.2 outside

theorem nodeAt?_place {root entries : FileEntries} {above : List (String × FileEntries)}
    (inside : IsIn root entries above) :
    root.nodeAt? (place ⟨entries, above⟩) = some (.directory entries) := by
  induction above generalizing entries with
  | nil =>
    cases inside
    rfl
  | cons outer above ih =>
    obtain ⟨name, outer⟩ := outer
    have last : place ⟨entries, (name, outer) :: above⟩ = place ⟨outer, above⟩ ++ [name] := by simp [place]
    rw [last, FileEntries.nodeAt?_append (ih inside.2), FileEntries.nodeAt?_singleton]
    exact inside.1

/-- What is at a name of a directory is what the tree has at that place. -/
theorem entry_find {root : FileEntries} {c : FileCursor} (inside : IsIn root c.entries c.above) (name : String) :
    (c.entries.get? name).map FileNode.entry = root.entryAt? (c.place ++ [name]) := by
  unfold FileEntries.entryAt?
  rw [FileEntries.nodeAt?_append (nodeAt?_place inside), FileEntries.nodeAt?_singleton]

end FileCursor

namespace FileTree

/-! ## Where a path leads -/

/-- How steps lead to a destination: at once, or through a link and what that leads to. -/
inductive Leads (t : FileTree) (use : PathUse) (d : Destination) :
    (links : Nat) → (slash : Bool) → FileCursor → List String → Prop
  | ended {links : Nat} {c : FileCursor} {steps : List String}
    (advanced : c.advance (use.followsLast d.slash) steps = .ok (.ended d.directory d.name)) :
    Leads t use d links d.slash c steps
  | linked {links : Nat} {slash : Bool} {c directory : FileCursor} {steps rest : List String} {target : String}
    (advanced : c.advance (use.followsLast slash) steps = .ok (.linked directory target rest))
    (sound : (FilePath.ofText target).fault? = none)
    (further : Leads t use d links (slash || (rest.isEmpty && (FilePath.ofText target).endsInSlash))
      (t.startOf directory (FilePath.ofText target)) ((FilePath.ofText target).steps ++ rest)) :
    Leads t use d (links + 1) slash c steps

theorem leads_of_follow {t : FileTree} {use : PathUse} {links : Nat} {d : Destination} : ∀ {slash c steps},
    t.follow use links slash c steps = .ok d → Leads t use d links slash c steps := by
  induction links with
  | zero =>
    intro slash c steps followed
    unfold follow at followed
    split at followed
    · cases followed
    · next advanced => cases followed; exact .ended advanced
    · cases followed
  | succ links ih =>
    intro slash c steps followed
    unfold follow at followed
    split at followed
    · cases followed
    · next advanced => cases followed; exact .ended advanced
    · next directory target rest advanced =>
      dsimp only at followed
      split at followed
      · cases followed
      · next sound => exact .linked advanced sound (ih followed)

theorem follow_eq_ok_iff {t : FileTree} {use : PathUse} {links : Nat} {slash : Bool} {c : FileCursor}
    {steps : List String} {d : Destination} :
    t.follow use links slash c steps = .ok d ↔ Leads t use d links slash c steps := by
  refine ⟨leads_of_follow, fun leads => ?_⟩
  induction leads with
  | ended advanced =>
    unfold follow
    rw [advanced]
  | linked advanced sound further ih =>
    unfold follow
    rw [advanced]
    dsimp only
    rw [sound]
    exact ih

/-- A path begins at the root, or in the directory that it is in. -/
theorem isIn_startOf {t : FileTree} {c : FileCursor} (h : FileCursor.IsIn t.root c.entries c.above) (path : FilePath) :
    FileCursor.IsIn t.root (t.startOf c path).entries (t.startOf c path).above := by
  unfold startOf
  split
  · exact rfl
  · exact h

theorem Leads.isIn {t : FileTree} {use : PathUse} {links : Nat} {slash : Bool} {c : FileCursor} {steps : List String}
    {d : Destination} (leads : Leads t use d links slash c steps) (h : FileCursor.IsIn t.root c.entries c.above) :
    FileCursor.IsIn t.root d.directory.entries d.directory.above := by
  induction leads with
  | ended advanced => exact FileCursor.isIn_advance h advanced
  | linked advanced sound further ih => exact ih (isIn_startOf (FileCursor.isIn_advance h advanced) _)

/-- A path leads from the root or the working directory, through at most as many links as one path may have. -/
theorem destination_eq_ok_iff {t : FileTree} {use : PathUse} {path : FilePath} {d : Destination} :
    t.destination use path = .ok d ↔
      ∃ first, FileCursor.descend ⟨t.root, []⟩ (if path.isAbsolute then [] else t.working) = .ok first ∧
        Leads t use d maxLinks path.endsInSlash first path.steps := by
  unfold destination
  simp only [bind, Except.bind]
  constructor
  · intro leads
    split at leads
    · cases leads
    · next first started => exact ⟨first, started, leads_of_follow leads⟩
  · rintro ⟨first, started, leads⟩
    rw [started]
    exact follow_eq_ok_iff.mpr leads

theorem isIn_destination {t : FileTree} {use : PathUse} {path : FilePath} {d : Destination}
    (h : t.destination use path = .ok d) : FileCursor.IsIn t.root d.directory.entries d.directory.above := by
  obtain ⟨first, started, leads⟩ := destination_eq_ok_iff.mp h
  exact leads.isIn (FileCursor.isIn_descend (show FileCursor.IsIn t.root t.root [] from rfl) started)

theorem locate_eq_destination {t : FileTree} {use : PathUse} {path : FilePath} (sound : path.fault? = none) :
    t.locate use path = t.destination use path := by
  unfold locate
  rw [sound]

theorem locate_eq_ok_iff {t : FileTree} {use : PathUse} {path : FilePath} {d : Destination} :
    t.locate use path = .ok d ↔ path.fault? = none ∧ t.destination use path = .ok d := by
  unfold locate
  cases path.fault? with
  | none => simp
  | some fault => simp

/-- What has a name in the directory that a path leads to. -/
theorem get?_place {t : FileTree} {use : PathUse} {path : FilePath} {d : Destination} {name : String}
    (leads : t.destination use path = .ok d) (named : d.name = some name) :
    t.get? d.place = (d.directory.entries.get? name).map FileNode.entry := by
  rw [Destination.place, named, Option.toList_some]
  exact (FileCursor.entry_find (isIn_destination leads) name).symm

/-- Putting something at the end of a path changes what is there and nothing else. -/
theorem get?_put {t : FileTree} {use : PathUse} {path : FilePath} {d : Destination} {name : String} {node : FileNode}
    (leaf : node.IsLeaf) (leads : t.destination use path = .ok d) (named : d.name = some name)
    (free : t.get? d.place ≠ some .directory) (other : FilePlace) :
    (t.put d.place node).get? other = if other = d.place then some node.entry else t.get? other := by
  refine FileEntries.entryAt?_put leaf ?_ other
  have isFree : FileEntries.IsFree [name] d.directory.entries := by
    intro inner held
    rw [get?_place leads named, held] at free
    exact free rfl
  simpa [Destination.place, named] using FileCursor.isFree_place_append (isIn_destination leads) isFree

end FileTree

end BufferScope
