/-
Paths below a directory. A name that is joined to the path of a directory is in the place where the path
leads alone (`destination_below`), with a slash at its end or without, and also for the empty path and
for those that end in points or in a link. If the name is that of a link, what is written there goes
elsewhere, and if not it goes to that place (`destination_making`).
-/
import BufferScope.Proofs.Files.Overwrite

namespace BufferScope

namespace FilePath

/-! ## Parts of a text -/

/-- A name that can be joined to a path. -/
structure IsName (name : String) : Prop where
  filled : name ≠ ""
  noSlash : '/' ∉ name.toList
  noPoint : name ≠ "." ∧ name ≠ ".."

theorem ofText_of_noSlash {name : String} (noSlash : '/' ∉ name.toList) : ofText name = ⟨[name]⟩ := by
  simp [ofText, List.splitOn_eq_singleton noSlash]

theorem ofText_slash (above : String) {name : String} (noSlash : '/' ∉ name.toList) :
    ofText (above ++ "/" ++ name) = ⟨(ofText above).parts ++ [name]⟩ := by
  have text : (above ++ "/" ++ name).toList = above.toList ++ '/' :: name.toList := by simp
  unfold ofText
  rw [text, List.splitOn_append_cons_self, List.splitOn_eq_singleton noSlash]
  simp

theorem exists_ofText_eq_cons (text : String) : ∃ first rest, ofText text = ⟨first :: rest⟩ := by
  have nonempty : (ofText text).parts ≠ [] := by
    intro none
    exact List.splitOn_ne_nil _ _ (List.map_eq_nil_iff.mp none)
  obtain ⟨first, rest, parts⟩ := List.exists_cons_of_ne_nil nonempty
  exact ⟨first, rest, congrArg FilePath.mk parts⟩

/-- Only the empty text has nothing but an empty part. -/
theorem eq_empty_of_ofText {text : String} (blank : ofText text = ⟨[""]⟩) : text = "" := by
  obtain ⟨only, split, none⟩ := List.map_eq_singleton_iff.mp (congrArg parts blank)
  have whole : ['/'].intercalate (text.toList.splitOn '/') = text.toList := List.intercalate_splitOn '/'
  rw [split, String.ofList_eq_empty_iff.mp none] at whole
  exact String.toList_inj.mp whole.symm

/-! ## Joining a name -/

theorem steps_append (parts more : List String) :
    steps ⟨parts ++ more⟩ = steps ⟨parts⟩ ++ steps ⟨more⟩ := List.filter_append ..

theorem isAbsolute_cons (first : String) (rest : List String) :
    isAbsolute ⟨first :: rest⟩ = (first == "" && !rest.isEmpty) := by
  unfold isAbsolute isEmpty
  cases rest <;> by_cases empty : first = "" <;> simp [empty]

theorem isAbsolute_concat (first last : String) (rest : List String) :
    isAbsolute ⟨(first :: rest) ++ [last]⟩ = (first == "") := by
  rw [List.cons_append, isAbsolute_cons]
  simp

/-- A name that is joined to a path comes after its steps, and the path begins where it began. -/
theorem steps_join (directory : String) {name : String} (isName : IsName name) :
    (ofText (join directory name)).steps = (ofText directory).steps ++ [name] ∧
      (ofText (join directory name)).isAbsolute = (ofText directory).isAbsolute := by
  have alone : steps ⟨[name]⟩ = [name] := by simp [steps, isName.filled]
  have relative : name.startsWith "/" = false := by
    rw [Bool.eq_false_iff]
    intro starts
    obtain ⟨rest, text⟩ := String.startsWith_string_iff.mp starts
    exact isName.noSlash (text ▸ List.mem_append_left _ (by simp))
  unfold join
  rw [relative, Bool.false_or]
  by_cases blank : directory.isEmpty
  · rw [if_pos blank, String.isEmpty_iff.mp blank, ofText_of_noSlash isName.noSlash, ofText_of_noSlash (by simp)]
    simp [isAbsolute_cons, isName.filled, steps]
  rw [if_neg blank]
  by_cases closed : directory.endsWith "/"
  · -- nothing comes between the last slash and the name
    rw [if_pos closed]
    rw [String.endsWith_eq_endsWith_toSlice, String.Slice.endsWith_string_iff] at closed
    obtain ⟨above, text⟩ := closed
    have split : directory = String.ofList above ++ "/" ++ "" := by
      rw [← String.toList_inj]
      simpa using text.symm
    obtain ⟨first, rest, parts⟩ := exists_ofText_eq_cons (String.ofList above)
    rw [split, ofText_slash _ (by simp), String.append_empty, ofText_slash _ isName.noSlash, parts]
    constructor
    · rw [steps_append, steps_append, alone]
      simp [steps]
    · rw [isAbsolute_concat, isAbsolute_concat]
  · rw [if_neg closed]
    obtain ⟨first, rest, parts⟩ := exists_ofText_eq_cons directory
    rw [ofText_slash _ isName.noSlash, parts]
    constructor
    · rw [steps_append, alone]
    · have filled : first = "" → rest ≠ [] := by
        rintro rfl rfl
        exact blank (String.isEmpty_iff.mpr (eq_empty_of_ofText parts))
      rw [isAbsolute_concat, isAbsolute_cons]
      by_cases empty : first = "" <;> simp [empty, filled]

end FilePath

namespace FileCursor

theorem place_enter {c d : FileCursor} {name : String} (entered : c.enter name = .ok d) :
    d.place = c.place ++ [name] := by
  obtain ⟨-, inner, -, rfl⟩ := enter_eq_ok_iff.mp entered
  simp [place]

/-- Steps with a name after them come to that name if they come to its directory, and to a link if they do. -/
theorem advance_concat {name : String} (noPoint : ¬(name = "." ∨ name = "..")) {steps : List String} {p : Progress} :
    ∀ {c : FileCursor}, c.advance false (steps ++ [name]) = .ok p →
      (∃ directory above last, p = .ended directory (some name) ∧
        c.advance true steps = .ok (.ended above last) ∧ directory.place = above.place ++ last.toList) ∨
      ∃ directory target rest, p = .linked directory target (rest ++ [name]) ∧
        c.advance true steps = .ok (.linked directory target rest) := by
  induction steps with
  | nil =>
    intro c advanced
    have ended : c.step name true false = .ok .ended := by
      cases linked : c.link? name with
      | none => exact step_of_unlinked c _ _ noPoint linked
      | some target => exact step_of_link c _ _ noPoint linked
    rw [List.nil_append, advance, List.isEmpty_nil, ended] at advanced
    cases advanced
    exact .inl ⟨c, c, none, rfl, rfl, by simp⟩
  | cons first rest ih =>
    intro c advanced
    have more : (rest ++ [name]).isEmpty = false := by simp
    rw [List.cons_append, advance, more] at advanced
    rw [advance]
    by_cases point : first = "." ∨ first = ".."
    · rw [step_of_point c _ _ point] at advanced ⊢
      exact ih advanced
    rcases linked : c.link? first with _ | target
    · rw [step_of_unlinked c _ _ point linked] at advanced ⊢
      rw [if_neg Bool.false_ne_true] at advanced
      rcases entered : c.enter first with e | next
      · rw [entered] at advanced
        cases advanced
      rw [entered] at advanced
      change next.advance false (rest ++ [name]) = .ok p at advanced
      -- at the end of the steps the directory is named, and it is entered when a name comes after it
      cases rest with
      | nil =>
        obtain ⟨directory, above, last, ended, stayed, place⟩ | ⟨_, _, _, -, stayed⟩ := ih advanced
        · cases stayed
          refine .inl ⟨directory, c, some first, ended, rfl, ?_⟩
          rw [place, Option.toList_none, List.append_nil, place_enter entered]
          rfl
        · cases stayed
      | cons second rest => exact ih advanced
    · rw [step_of_link c _ _ point linked] at advanced ⊢
      cases advanced
      exact .inr ⟨c, target, rest, rfl, by simp⟩

/-- Whether a link at the end is followed matters only if there is one. -/
theorem advance_unfollowed {followLast : Bool} {steps : List String} {p : Progress} :
    ∀ {c : FileCursor}, c.advance followLast steps = .ok p → c.advance false steps = .ok p ∨
      ∃ directory target name, p = .linked directory target [] ∧ directory.link? name = some target ∧
        c.advance false steps = .ok (.ended directory (some name)) := by
  induction steps with
  | nil => exact fun advanced => .inl advanced
  | cons name rest ih =>
    intro c advanced
    unfold advance at advanced ⊢
    cases rest with
    | cons second rest =>
      -- a link in a step that is not the last is followed in any case
      have same : ∀ follow, c.step name (second :: rest).isEmpty follow = c.step name false false := by
        intro follow
        unfold step
        rfl
      rw [same] at advanced ⊢
      split at advanced
      · cases advanced
      · exact .inl advanced
      · exact .inl advanced
      · exact ih advanced
    | nil =>
      by_cases point : name = "." ∨ name = ".."
      · rw [step_of_point c _ _ point] at advanced ⊢
        exact .inl advanced
      rcases linked : c.link? name with _ | target
      · rw [step_of_unlinked c _ _ point linked] at advanced ⊢
        exact .inl advanced
      · rw [step_of_link c _ _ point linked] at advanced ⊢
        cases followLast with
        | false => exact .inl advanced
        | true =>
          cases advanced
          exact .inr ⟨c, target, name, rfl, linked, rfl⟩

end FileCursor

namespace FileTree

/-! ## The place of a name in a directory -/

/-- Steps with a name after them lead to that name in the directory that the steps alone lead to. -/
theorem Leads.toDirectory {t : FileTree} {name : String} (noPoint : ¬(name = "." ∨ name = ".."))
    {d : Destination} {links : Nat} {slash : Bool} {c : FileCursor} {whole : List String}
    (leads : Leads t .making d links slash c whole) :
    ∀ {steps : List String}, whole = steps ++ [name] → ∀ closed : Bool,
      ∃ e, Leads t .reading e links closed c steps ∧ d.place = e.place ++ [name] := by
  induction leads with
  | ended advanced =>
    rintro steps rfl closed
    obtain ⟨directory, above, last, ended, before, place⟩ | ⟨_, _, _, linked, -⟩ :=
      FileCursor.advance_concat noPoint advanced
    · obtain ⟨same, named⟩ := FileCursor.Progress.ended.inj ended
      refine ⟨⟨above, last, closed⟩, .ended before, ?_⟩
      unfold Destination.place
      rw [same, named, place, Option.toList_some]
    · cases linked
  | linked advanced sound further ih =>
    rintro steps rfl closed
    obtain ⟨_, _, _, ended, -⟩ | ⟨directory, target, rest, linked, before⟩ :=
      FileCursor.advance_concat noPoint advanced
    · cases ended
    · cases linked
      obtain ⟨e, leads, place⟩ := ih (List.append_assoc ..).symm _
      exact ⟨e, .linked before sound leads, place⟩

/-- A name that is joined to the path of a directory is in the place where the path leads. -/
theorem destination_below {t : FileTree} {directory name : String} {d : Destination} (isName : FilePath.IsName name)
    (leads : t.destination .making (FilePath.ofText (FilePath.join directory name)) = .ok d) :
    ∃ e, t.destination .reading (FilePath.ofText directory) = .ok e ∧ d.place = e.place ++ [name] := by
  obtain ⟨steps, absolute⟩ := FilePath.steps_join directory isName
  obtain ⟨first, started, leads⟩ := destination_eq_ok_iff.mp leads
  rw [absolute] at started
  rw [steps] at leads
  obtain ⟨e, leads, place⟩ := leads.toDirectory (not_or.mpr isName.noPoint) rfl _
  exact ⟨e, destination_eq_ok_iff.mpr ⟨first, started, leads⟩, place⟩

/-! ## Links at the end of a path -/

/-- What steps lead to for any use is where they lead when no link at their end is followed, or there is one. -/
theorem Leads.making {t : FileTree} {use : PathUse} {d : Destination} {links : Nat} {slash : Bool} {c : FileCursor}
    {steps : List String} (leads : Leads t use d links slash c steps) :
    FileCursor.IsIn t.root c.entries c.above → ∃ d', Leads t .making d' links slash c steps ∧
      (d' = d ∨ ∃ target, t.get? d'.place = some (.link target)) := by
  induction leads with
  | ended advanced =>
    intro _
    obtain before | ⟨_, _, _, linked, -⟩ := FileCursor.advance_unfollowed advanced
    · exact ⟨d, .ended before, .inl rfl⟩
    · cases linked
  | @linked links slash c directory steps rest target advanced sound further ih =>
    intro inside
    have here := FileCursor.isIn_advance inside advanced
    obtain before | ⟨_, _, name, linked, held, ended⟩ := FileCursor.advance_unfollowed advanced
    · obtain ⟨d', leads, same⟩ := ih (isIn_startOf here _)
      exact ⟨d', .linked before sound leads, same⟩
    · cases linked
      refine ⟨⟨directory, some name, slash⟩, .ended ended, .inr ⟨target, ?_⟩⟩
      exact ((FileCursor.link?_eq_some_iff_entryAt? here).mp held).2

/-- A path leads to its last name, if that is not the name of a link. -/
theorem destination_making {t : FileTree} {use : PathUse} {path : FilePath} {d : Destination}
    (leads : t.destination use path = .ok d) : ∃ d', t.destination .making path = .ok d' ∧
      (d' = d ∨ ∃ target, t.get? d'.place = some (.link target)) := by
  obtain ⟨first, started, leads⟩ := destination_eq_ok_iff.mp leads
  have start : FileCursor.IsIn t.root t.root [] := rfl
  obtain ⟨d', leads, same⟩ := leads.making (FileCursor.isIn_descend start started)
  exact ⟨d', destination_eq_ok_iff.mpr ⟨first, started, leads⟩, same⟩

end FileTree

end BufferScope
