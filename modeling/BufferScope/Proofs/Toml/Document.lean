/-
Documents, written and read back. `read_writeSections`: sections with bare names, each with entries of
bare names and no name twice, are read as one table a section, with the entries in the order in which
they were written.
-/
import BufferScope.Proofs.Toml.Scalar

namespace BufferScope.Toml

/-! ## Tables -/

namespace Entries

variable {es : Entries} {key : String}

def names (es : Entries) : List String := es.map (·.1)

theorem alter_of_not_mem (absent : key ∉ es.names) (change : Option Value → Option Value) :
    es.alter key change = (change none).map fun v => es ++ [(key, v)] := by
  induction es with
  | nil => rfl
  | cons e rest ih =>
    obtain ⟨name, v⟩ := e
    simp only [names, List.map_cons, List.mem_cons, not_or] at absent ih
    rw [alter, if_neg (Ne.symm absent.1), ih absent.2, Option.map_map]
    rfl

/-- The last entry is changed, when no other has its key. -/
theorem alter_append (absent : key ∉ es.names) (v : Value) (change : Option Value → Option Value) :
    (es ++ [(key, v)]).alter key change = (change (some v)).map fun v => es ++ [(key, v)] := by
  induction es with
  | nil =>
    rw [List.nil_append, alter, if_pos rfl]
    rfl
  | cons e rest ih =>
    obtain ⟨name, w⟩ := e
    simp only [names, List.map_cons, List.mem_cons, not_or] at absent ih
    rw [List.cons_append, alter, if_neg (Ne.symm absent.1), ih absent.2, Option.map_map]
    rfl

end Entries

/-! ## Lines -/

/-- A line that begins with a bracket or a name is not blank. -/
theorem passLineEnd_of_start {c : Char} (start : c = '[' ∨ isBare c = true) (rest : List Char) :
    passLineEnd false (c :: rest) = none := by
  have other : ∀ d : Char, d ≠ '[' → isBare d = false → c ≠ d := by
    rintro d notBracket notBare rfl
    rcases start with rfl | bare
    · exact notBracket rfl
    · rw [notBare] at bare
      cases bare
  rw [passLineEnd]
  · simp [other ' ' (by decide) rfl, other '\t' (by decide) rfl, other '#' (by decide) rfl]
  · exact other '\n' (by decide) rfl
  · rintro rest rfl
    exact absurd rfl (other '\r' (by decide) rfl)

/-- A line up to its end, and the lines after it. -/
theorem readLines_line {d after : Draft} {c : Char} (line : List Char) {rest : List Char}
    (start : c = '[' ∨ isBare c = true) (read : readLine d (c :: line ++ '\n' :: rest) = some (after, '\n' :: rest))
    (fuel : Nat) :
    readLines (fuel + 1) d (c :: line ++ '\n' :: rest) = readLines fuel after rest := by
  have noBlank : dropBlanks (c :: (line ++ '\n' :: rest)) = c :: (line ++ '\n' :: rest) := by
    refine dropBlanks_cons ?_ ?_ _
    all_goals
      rintro rfl
      rcases start with start | start <;> cases start
  rw [List.cons_append] at read ⊢
  rw [readLines, passLineEnd_of_start start, noBlank]
  · simp only [read, bind, Option.bind, passLineEnd]
  · exact List.cons_ne_nil _ _

theorem readLines_blank (d : Draft) (rest : List Char) (fuel : Nat) :
    readLines (fuel + 1) d ('\n' :: rest) = readLines fuel d rest := by
  rw [readLines, passLineEnd]
  exact List.cons_ne_nil _ _

/-- The header of a table that is not there yet opens it. -/
theorem readLines_header {d : Draft} {name : String} (bare : IsBareName name) (absent : name ∉ d.root.names)
    (rest : List Char) (fuel : Nat) :
    readLines (fuel + 1) d ('[' :: (name.toList ++ ']' :: '\n' :: rest)) =
      readLines fuel ⟨d.root ++ [(name, .table .header [])], [name]⟩ rest := by
  obtain ⟨c, tail, same, first⟩ := bare.exists_toList_eq_cons
  have names : readKey (name.toList ++ ']' :: '\n' :: rest) = some ([name], ']' :: '\n' :: rest) :=
    readKey_append bare (fun c first => by cases first; rfl) (fun tail point => by cases point)
  have key : readHeaderKey (name.toList ++ ']' :: '\n' :: rest) = some ([name], '\n' :: rest) := by
    unfold readHeaderKey
    simp only [bind, Option.bind, names]
  have opened : d.root.alterEntry Entries.openTable [name] = some (d.root ++ [(name, .table .header [])]) := by
    rw [Entries.alterEntry, Entries.alter_of_not_mem absent]
    rfl
  have read : readLine d ('[' :: (name.toList ++ ']' :: '\n' :: rest)) =
      some (⟨d.root ++ [(name, .table .header [])], [name]⟩, '\n' :: rest) := by
    rw [readLine]
    · simp only [bind, Option.bind, key, opened]
    · intro cs double
      rw [same] at double
      cases double
      cases first
  have line := readLines_line (name.toList ++ [']']) (.inl rfl) (by simpa using read) fuel
  simpa using line

/-- An entry whose key is not there yet is added to the table of the header above. -/
theorem readLines_entry {before entries : Entries} {name : String} (unique : name ∉ before.names) {key : String}
    (bare : IsBareName key) (absent : key ∉ entries.names) (s : Scalar) (fits : s.Fits) (rest : List Char)
    (fuel : Nat) :
    readLines (fuel + 1) ⟨before ++ [(name, .table .header entries)], [name]⟩ (writeEntry (key, s) ++ rest) =
      readLines fuel ⟨before ++ [(name, .table .header (entries ++ [(key, s.toValue)]))], [name]⟩ rest := by
  obtain ⟨c, tail, same, first⟩ := bare.exists_toList_eq_cons
  have added : Entries.alterAt (fun table => table.put s.toValue [key]) [name]
      (before ++ [(name, .table .header entries)]) =
      some (before ++ [(name, .table .header (entries ++ [(key, s.toValue)]))]) := by
    rw [Entries.alterAt, Entries.alter_append unique]
    simp only [Entries.enter, Entries.alterAt, Entries.put, Entries.alter_of_not_mem absent, Entries.fresh,
      Option.map_some]
  have read : readLine ⟨before ++ [(name, .table .header entries)], [name]⟩
      (key.toList ++ (" = ".toList ++ (s.write ++ '\n' :: rest))) =
        some (⟨before ++ [(name, .table .header (entries ++ [(key, s.toValue)]))], [name]⟩, '\n' :: rest) := by
    have entry := readEntry_write bare s fits rest
    rw [same, List.cons_append] at entry ⊢
    rw [readLine]
    · simp only [bind, Option.bind, entry, added]
    · intro cs double
      cases (List.cons_eq_cons.mp double).1
      cases first
    · intro cs header
      cases (List.cons_eq_cons.mp header).1
      cases first
  have line := readLines_line (tail ++ (" = ".toList ++ s.write)) (.inr first) (by simpa [same] using read) fuel
  unfold writeEntry
  simpa [same] using line

/-! ## Sections -/

/-- The entry that a section is read as. -/
def Section.toEntry (s : Section) : String × Value :=
  (s.name, .table .header (s.entries.map fun (key, v) => (key, v.toValue)))

/-- A section that is read as it was written: its name and its keys are bare, no key is there twice, and
its numbers are not too large. -/
structure Section.Sound (s : Section) : Prop where
  name : IsBareName s.name
  keys : ∀ key ∈ s.entries.map (·.1), IsBareName key
  distinct : (s.entries.map (·.1)).Nodup
  fits : ∀ entry ∈ s.entries, entry.2.Fits

/-- The entries of a section are read one after the other, each in a line. -/
theorem readLines_entries {before : Entries} {name : String} (unique : name ∉ before.names) (rest : List Char)
    (fuel : Nat) (todo : List (String × Scalar)) (bare : ∀ key ∈ todo.map (·.1), IsBareName key)
    (distinct : (todo.map (·.1)).Nodup) (fits : ∀ entry ∈ todo, entry.2.Fits) :
    ∀ done : Entries, (∀ entry ∈ todo, entry.1 ∉ done.names) →
      readLines (fuel + todo.length) ⟨before ++ [(name, .table .header done)], [name]⟩
        (todo.flatMap writeEntry ++ rest) =
        readLines fuel ⟨before ++ [(name, .table .header (done ++ todo.map fun (key, v) => (key, v.toValue)))],
          [name]⟩ rest := by
  -- on the entries that are still to be read; those read so far are in the table of the header
  induction todo with
  | nil =>
    intro done _
    rw [List.map_nil, List.append_nil]
    rfl
  | cons entry todo ih =>
    intro done fresh
    obtain ⟨key, s⟩ := entry
    rw [List.map_cons, List.nodup_cons] at distinct
    have next := ih (fun e later => bare e (List.mem_cons_of_mem _ later)) distinct.2
      (fun e later => fits e (List.mem_cons_of_mem _ later)) (done ++ [(key, s.toValue)]) (by
        intro e later
        have other : e.1 ≠ key := by
          exact fun same => distinct.1 (List.mem_map.mpr ⟨e, later, same⟩)
        simpa [Entries.names, other] using fresh e (List.mem_cons_of_mem _ later))
    rw [List.length_cons, ← Nat.add_assoc, List.flatMap_cons, List.append_assoc,
      readLines_entry unique (bare _ List.mem_cons_self) (fresh _ List.mem_cons_self) s (fits _ List.mem_cons_self),
      next, List.append_assoc]
    rfl

def Section.lines (s : Section) : Nat := s.entries.length + 1

/-- A section whose name is not there yet is read as one more table. -/
theorem readLines_section {d : Draft} {s : Section} (sound : s.Sound) (absent : s.name ∉ d.root.names)
    (rest : List Char) (fuel : Nat) :
    readLines (fuel + s.lines) d (s.write ++ rest) = readLines fuel ⟨d.root ++ [s.toEntry], [s.name]⟩ rest := by
  have shape : s.write ++ rest = '[' :: (s.name.toList ++ ']' :: '\n' :: (s.entries.flatMap writeEntry ++ rest)) := by
    simp [Section.write]
  rw [shape, Section.lines, ← Nat.add_assoc, readLines_header sound.name absent,
    readLines_entries absent rest fuel s.entries sound.keys sound.distinct sound.fits [] (fun _ _ => List.not_mem_nil)]
  rfl

def linesOf (sections : List Section) : Nat := (sections.map fun s => s.lines + 1).sum

theorem readLines_writeSections (sections : List Section) (sound : ∀ s ∈ sections, s.Sound)
    (distinct : (sections.map Section.name).Nodup) (fuel : Nat) :
    ∀ d : Draft, (∀ s ∈ sections, s.name ∉ d.root.names) →
    readLines (fuel + linesOf sections) d (writeSections sections) = some (d.root ++ sections.map Section.toEntry) := by
  induction sections with
  | nil =>
    intro d _
    rw [writeSections, readLines, List.map_nil, List.append_nil]
  | cons s rest ih =>
    intro d fresh
    rw [List.map_cons, List.nodup_cons] at distinct
    have first := readLines_section (sound s List.mem_cons_self) (fresh s List.mem_cons_self)
    have next := ih (fun t later => sound t (List.mem_cons_of_mem _ later)) distinct.2
      ⟨d.root ++ [s.toEntry], [s.name]⟩ (by
        intro t later
        have other : t.name ≠ s.name := fun same => distinct.1 (same ▸ List.mem_map_of_mem later)
        simpa [Entries.names, Section.toEntry, other] using fresh t (List.mem_cons_of_mem _ later))
    rw [List.append_assoc] at next
    cases rest with
    | nil =>
      have whole := first [] (fuel + 1)
      rw [List.append_nil, readLines] at whole
      have lines : fuel + linesOf [s] = fuel + 1 + s.lines := by
        simp only [linesOf, List.map_cons, List.map_nil, List.sum_cons, List.sum_nil]
        omega
      rw [writeSections, lines, whole]
      rfl
    | cons t rest =>
      have lines : fuel + linesOf (s :: t :: rest) = fuel + linesOf (t :: rest) + 1 + s.lines := by
        simp only [linesOf, List.map_cons, List.sum_cons]
        omega
      rw [writeSections, lines, first, readLines_blank, next]
      · rfl
      · exact List.cons_ne_nil _ _

theorem lines_lt_length (s : Section) : s.lines < s.write.length := by
  have entries : ∀ entries : List (String × Scalar), entries.length ≤ (entries.flatMap writeEntry).length := by
    intro entries
    induction entries with
    | nil => exact Nat.le_refl _
    | cons entry rest ih =>
      have : 0 < (writeEntry entry).length := by simp [writeEntry]
      rw [List.flatMap_cons, List.length_cons, List.length_append]
      omega
  have := entries s.entries
  simp only [Section.lines, Section.write, List.length_append, List.length_cons, List.length_nil]
  omega

theorem linesOf_le_length (sections : List Section) : linesOf sections ≤ (writeSections sections).length := by
  induction sections with
  | nil => exact Nat.le_refl _
  | cons s rest ih =>
    have first := lines_lt_length s
    simp only [linesOf, List.map_cons, List.sum_cons] at ih ⊢
    cases rest with
    | nil =>
      rw [writeSections]
      simpa using first
    | cons t rest =>
      rw [writeSections, List.length_append, List.length_cons]
      · omega
      · exact List.cons_ne_nil _ _

/-- Sections that are sound and have different names are read as they were written. -/
theorem read_writeSections {sections : List Section} (sound : ∀ s ∈ sections, s.Sound)
    (distinct : (sections.map Section.name).Nodup) :
    read (String.ofList (writeSections sections)) = some (sections.map Section.toEntry) := by
  have first : ∀ c rest, writeSections sections = c :: rest → c = '[' := by
    intro c rest same
    match sections with
    | [] => cases same
    | [s] => cases same; rfl
    | s :: t :: later => cases same; rfl
  have enough := linesOf_le_length sections
  have lines :=
    readLines_writeSections sections sound distinct ((writeSections sections).length + 1 - linesOf sections) {}
    fun _ _ => List.not_mem_nil
  rw [Nat.sub_add_cancel (by omega)] at lines
  unfold read
  rw [String.toList_ofList]
  split
  · next mark _ same => cases first _ _ same
  · exact lines

end BufferScope.Toml
