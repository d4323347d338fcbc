/-
The documents of settings, whole or without some of their entries. `Settings.parse_textKeeping`: what is
left is read as the settings with defaults in place of what was deleted.
-/
import BufferScope.Proofs.Toml.Document
import BufferScope.Settings.Document

namespace BufferScope

open Toml (Entries Scalar Section Value)

/-! ## Documents without some of their entries -/

/-- The text of a section from which the entries that are not kept were deleted. -/
def Toml.Section.writeKeeping (keep : String → Bool) (s : Section) : List Char :=
  '[' :: s.name.toList ++ [']', '\n'] ++
    s.entries.flatMap fun entry => if keep entry.1 then Toml.writeEntry entry else []

/-- The section without the entries that are not kept. -/
def Toml.Section.keeping (keep : String → Bool) (s : Section) : Section :=
  { s with entries := s.entries.filter fun entry => keep entry.1 }

namespace Toml.Section

variable {s : Section} {keep : String → Bool}

theorem write_keeping : (s.keeping keep).write = s.writeKeeping keep := by
  have entries : ∀ entries : List (String × Scalar),
      (entries.filter fun entry => keep entry.1).flatMap Toml.writeEntry =
      entries.flatMap fun entry => if keep entry.1 then Toml.writeEntry entry else [] := by
    intro entries
    induction entries with
    | nil => rfl
    | cons entry rest ih =>
      rw [List.filter_cons, List.flatMap_cons, ← ih]
      split
      · rw [List.flatMap_cons]
      · rw [List.nil_append]
  unfold write writeKeeping Section.keeping
  rw [entries]

theorem Sound.keeping (sound : s.Sound) : (s.keeping keep).Sound where
  name := sound.name
  keys key member := sound.keys key ((List.filter_sublist.map _).subset member)
  distinct := sound.distinct.sublist (List.filter_sublist.map _)
  fits entry member := sound.fits entry (List.mem_of_mem_filter member)

/-- The entries of a section are found under their keys, unless they were deleted. -/
theorem get?_keeping (key : String) (entries : List (String × Scalar)) :
    Entries.get? ((entries.filter fun entry => keep entry.1).map fun (key, v) => (key, v.toValue)) key =
      if keep key then (entries.find? (·.1 == key)).map (·.2.toValue) else none := by
  unfold Entries.get?
  induction entries with
  | nil => simp
  | cons entry rest ih =>
    obtain ⟨name, v⟩ := entry
    by_cases same : name = key
    · subst same
      by_cases kept : keep name = true
      · simp [kept]
      · simpa [kept] using ih
    · have differs : (name == key) = false := by simpa using same
      rw [List.filter_cons, List.find?_cons, differs, ← ih]
      split
      · rw [List.map_cons, List.find?_cons, differs]
      · rfl

theorem entriesSound_map (entries : List (String × Scalar)) :
    Toml.entriesSound (entries.map fun (key, v) => (key, v.toValue)) = true := by
  induction entries with
  | nil => rfl
  | cons entry rest ih =>
    obtain ⟨key, v⟩ := entry
    rw [List.map_cons, Toml.entriesSound, ih, Bool.and_true]
    cases v <;> rfl

end Toml.Section

/-- The document of the settings with some entries deleted, by section and key. Headers, the empty line and
all other entries stay as they are. -/
def Settings.textKeeping (s : Settings) (keep : String → String → Bool) : String :=
  String.ofList (s.host.section.writeKeeping (keep "host") ++ '\n' :: s.display.section.writeKeeping (keep "display"))

theorem Settings.textKeeping_all (s : Settings) : s.textKeeping (fun _ _ => true) = s.text := rfl

/-- The sections of the settings without the entries that are not kept. -/
def Settings.sectionsKeeping (s : Settings) (keep : String → String → Bool) : List Section :=
  [s.host.section.keeping (keep "host"), s.display.section.keeping (keep "display")]

/-- What is left of a document is the document of what is left. -/
theorem Settings.textKeeping_eq (s : Settings) (keep : String → String → Bool) :
    s.textKeeping keep = String.ofList (Toml.writeSections (s.sectionsKeeping keep)) := by
  unfold textKeeping sectionsKeeping
  rw [← Toml.Section.write_keeping, ← Toml.Section.write_keeping]
  rfl

/-! ## Settings without some of their entries -/

/-- The settings with defaults in place of what is not kept. -/
def Settings.keeping (s : Settings) (keep : String → String → Bool) : Settings where
  host :=
    { sampleRate := if keep "host" "sample_rate" then s.host.sampleRate else 44100
      bufferSize := if keep "host" "buffer_size" then s.host.bufferSize else 512
      outputChannels := if keep "host" "output_channels" then s.host.outputChannels else 2 }
  display :=
    { enabled := if keep "display" "enabled" then s.display.enabled else true
      window := if keep "display" "window" then s.display.window else true
      title := if keep "display" "title" then s.display.title else "Testing"
      width := if keep "display" "width" then s.display.width else 640
      height := if keep "display" "height" then s.display.height else 480
      framesDirectory := if keep "display" "frames_dir" then s.display.framesDirectory else none }

theorem Settings.keeping_all (s : Settings) : s.keeping (fun _ _ => true) = s := rfl

/-- A setting that was kept is read, and one that was deleted takes its default. -/
theorem orDefault_kept {α : Type} {read : Value → Option α} {value : Value} {x : α} (reads : read value = some x)
    (default : α) (kept : Bool) :
    orDefault read default (if kept then some value else none) = some (if kept then x else default) := by
  cases kept
  · rfl
  · exact reads

theorem readWhole_natCast {bound n : Nat} (inside : n < bound) : readWhole bound (.whole n) = some n := by
  have both : (0 : Int) ≤ (n : Int) ∧ (n : Int) < (bound : Int) := by omega
  rw [readWhole, if_pos both, Int.toNat_natCast]

theorem readWord32_toNat (n : UInt32) : readWord32 (.whole n.toNat) = some n := by
  rw [readWord32, readWhole_natCast n.toNat_lt, Option.map_some, UInt32.ofNat_toNat]

theorem readWord64_toNat (n : UInt64) : readWord64 (.whole n.toNat) = some n := by
  rw [readWord64, readWhole_natCast n.toNat_lt, Option.map_some, UInt64.ofNat_toNat]

theorem readBoolean_boolean (b : Bool) : readBoolean (.boolean b) = some b := rfl

theorem readString_text (s : String) : readString (.text s) = some s := rfl

/-- The fields of a section that was read without some of its entries. -/
theorem sectionFields_keeping (s : Section) (keep : String → Bool) :
    ∃ field, sectionFields (s.keeping keep).toEntry.2 = some field ∧ ∀ place key,
      field place key = if keep key then (s.entries.find? (·.1 == key)).map (·.2.toValue) else none := by
  refine ⟨fun _ key => Entries.get? ((s.keeping keep).entries.map fun (key, v) => (key, v.toValue)) key, ?_, ?_⟩
  · rw [Toml.Section.toEntry, sectionFields, Toml.Section.entriesSound_map, if_pos rfl]
  · intro _ key
    exact Toml.Section.get?_keeping key s.entries

theorem HostSettings.ofValue_keeping (s : Settings) (keep : String → String → Bool) :
    HostSettings.ofValue (s.host.section.keeping (keep "host")).toEntry.2 = some (s.keeping keep).host := by
  obtain ⟨field, fields, kept⟩ := sectionFields_keeping s.host.section (keep "host")
  have sampleRate : field 0 "sample_rate" =
      if keep "host" "sample_rate" then some (.whole s.host.sampleRate.toNat) else none :=
    kept 0 "sample_rate"
  have bufferSize : field 1 "buffer_size" =
      if keep "host" "buffer_size" then some (.whole s.host.bufferSize.toNat) else none :=
    kept 1 "buffer_size"
  have outputChannels :
      field 2 "output_channels" = if keep "host" "output_channels" then some (.whole s.host.outputChannels.toNat)
        else none :=
    kept 2 "output_channels"
  simp only [HostSettings.ofValue, fields, sampleRate, bufferSize, outputChannels, orDefault_kept (readWord32_toNat _),
    orDefault_kept (readWord64_toNat _), bind, Option.bind, pure, Settings.keeping]

theorem DisplaySettings.ofValue_keeping (s : Settings) (keep : String → String → Bool) :
    DisplaySettings.ofValue (s.display.section.keeping (keep "display")).toEntry.2 = some (s.keeping keep).display := by
  obtain ⟨field, fields, kept⟩ := sectionFields_keeping s.display.section (keep "display")
  have enabled : field 0 "enabled" = if keep "display" "enabled" then some (.boolean s.display.enabled) else none :=
    kept 0 "enabled"
  have window : field 1 "window" = if keep "display" "window" then some (.boolean s.display.window) else none :=
    kept 1 "window"
  have title : field 2 "title" = if keep "display" "title" then some (.text s.display.title) else none := kept 2 "title"
  have width : field 3 "width" = if keep "display" "width" then some (.whole s.display.width.toNat) else none :=
    kept 3 "width"
  have height : field 4 "height" = if keep "display" "height" then some (.whole s.display.height.toNat) else none :=
    kept 4 "height"
  have framesDirectory : orDefault (fun v => (readString v).map some) none (field 5 "frames_dir") =
      some (if keep "display" "frames_dir" then s.display.framesDirectory else none) := by
    rw [kept 5 "frames_dir", DisplaySettings.section]
    cases s.display.framesDirectory with
    | none => cases keep "display" "frames_dir" <;> rfl
    | some directory => cases keep "display" "frames_dir" <;> rfl
  simp only [DisplaySettings.ofValue, fields, enabled, window, title, width, height, framesDirectory,
    orDefault_kept (readBoolean_boolean _), orDefault_kept (readString_text _), orDefault_kept (readWord32_toNat _),
    bind, Option.bind, pure, Settings.keeping]

/-! ## Whole documents -/

theorem fits_word64 (n : UInt64) : Scalar.Fits (.whole n.toNat) := Nat.lt_trans n.toNat_lt (by decide)

theorem fits_word32 (n : UInt32) : Scalar.Fits (.whole n.toNat) := Nat.lt_trans n.toNat_lt (by decide)

theorem HostSettings.section_sound (h : HostSettings) : h.section.Sound where
  name := show Toml.IsBareName "host" by decide
  keys := show ∀ key ∈ ["sample_rate", "buffer_size", "output_channels"], Toml.IsBareName key by decide
  distinct := show ["sample_rate", "buffer_size", "output_channels"].Nodup by decide
  fits := by
    simp only [HostSettings.section, List.forall_mem_cons]
    exact ⟨fits_word32 _, fits_word64 _, fits_word64 _, fun _ none => nomatch none⟩

/-- The keys of the display settings, the last of which may be missing. -/
theorem DisplaySettings.keys_sublist (d : DisplaySettings) :
    (d.section.entries.map (·.1)).Sublist ["enabled", "window", "title", "width", "height", "frames_dir"] := by
  rw [DisplaySettings.section]
  cases d.framesDirectory with
  | none => exact List.sublist_append_left ["enabled", "window", "title", "width", "height"] ["frames_dir"]
  | some directory => exact List.Sublist.refl _

theorem DisplaySettings.section_sound (d : DisplaySettings) : d.section.Sound where
  name := show Toml.IsBareName "display" by decide
  keys key member := by
    have bare : ∀ key ∈ ["enabled", "window", "title", "width", "height", "frames_dir"], Toml.IsBareName key := by
      decide
    exact bare key (d.keys_sublist.subset member)
  distinct := d.keys_sublist.nodup (by decide)
  fits := by
    rw [DisplaySettings.section, List.forall_mem_append]
    constructor
    · simp only [List.forall_mem_cons]
      exact ⟨trivial, trivial, trivial, fits_word32 _, fits_word32 _, fun _ none => nomatch none⟩
    · cases d.framesDirectory with
      | none => exact fun _ none => nomatch none
      | some directory => simp only [List.forall_mem_singleton, Scalar.Fits]

namespace Settings

variable (s : Settings) (keep : String → String → Bool)

theorem sectionsKeeping_sound : ∀ t ∈ s.sectionsKeeping keep, t.Sound := by
  simp only [sectionsKeeping, List.forall_mem_cons]
  exact ⟨s.host.section_sound.keeping, s.display.section_sound.keeping, fun _ none => nomatch none⟩

theorem ofEntries_sectionsKeeping :
    Settings.ofEntries ((s.sectionsKeeping keep).map Section.toEntry) = some (s.keeping keep) := by
  have host : orDefault HostSettings.ofValue {} (Entries.get? ((s.sectionsKeeping keep).map Section.toEntry) "host") =
      some (s.keeping keep).host := HostSettings.ofValue_keeping s keep
  have display : orDefault DisplaySettings.ofValue {}
      (Entries.get? ((s.sectionsKeeping keep).map Section.toEntry) "display") =
      some (s.keeping keep).display := DisplaySettings.ofValue_keeping s keep
  unfold Settings.ofEntries
  rw [host, display]
  rfl

/-- What is left of the document of settings is read as the settings with defaults in place of what was
deleted, if they are usable then. -/
theorem parse_textKeeping : Settings.parse (s.textKeeping keep) = (s.keeping keep).checked := by
  have distinct : ((s.sectionsKeeping keep).map Section.name).Nodup := show ["host", "display"].Nodup by decide
  unfold parse
  rw [textKeeping_eq, Toml.read_writeSections (s.sectionsKeeping_sound keep) distinct]
  simp only [bind, Option.bind, ofEntries_sectionsKeeping]

end Settings

end BufferScope
