/-
Settings saved, edited and loaded. `Settings.parse_keeping`: of a saved document any entries can be
deleted, and what is left is read as the settings with defaults in place of those; and whatever settings
are read from any text, a host and a scope accept them.
-/
import Mathlib
import BufferScope.Host
import BufferScope.Proofs.Files.Overwrite
import BufferScope.Proofs.Settings.Document
import BufferScope.Screen.Configured
import BufferScope.Settings.File

namespace BufferScope

namespace Settings

/-! ## Usable settings -/

/-- Settings that a host and a scope can work with. -/
structure Usable (s : Settings) : Prop where
  rate : s.host.sampleRate ≠ 0
  frames : s.host.bufferSize ≠ 0
  output : s.host.outputChannels ≠ 0
  width : s.display.width ≠ 0
  height : s.display.height ≠ 0

variable {s t : Settings}

theorem usable_iff : s.Usable ↔ s.fault? = none := by
  constructor
  · rintro ⟨rate, frames, output, width, height⟩
    simp only [fault?, rate, frames, output, width, height, or_self, if_false]
  · intro fine
    unfold fault? at fine
    grind [Usable]

theorem checked_eq_ok_iff : s.checked = .ok t ↔ s.Usable ∧ s = t := by
  rw [usable_iff]
  unfold checked
  cases s.fault? with
  | none => simp
  | some fault => simp

/-- The defaults are usable, so settings stay so when entries are deleted. -/
theorem Usable.keeping (usable : s.Usable) (keep : String → String → Bool) : (s.keeping keep).Usable := by
  obtain ⟨rate, frames, output, width, height⟩ := usable
  have kept : ∀ {α : Type} [Zero α] {x default : α} (kept : Bool), x ≠ 0 → default ≠ 0 →
      (if kept then x else default) ≠ 0 := by
    intro α _ x default kept here there
    cases kept <;> assumption
  exact ⟨kept _ rate (by decide), kept _ frames (by decide), kept _ output (by decide), kept _ width (by decide),
    kept _ height (by decide)⟩

theorem usable_of_parse {text : String} (parsed : Settings.parse text = .ok s) : s.Usable := by
  unfold parse at parsed
  split at parsed
  · cases parsed
  · obtain ⟨usable, rfl⟩ := checked_eq_ok_iff.mp parsed
    exact usable

theorem Usable.exists_host (usable : s.Usable) (φ : Type) :
    ∃ h : Host φ, Host.create s.host = .ok h ∧ h.settings = s.host := by
  have frames : ¬ s.host.bufferSize.toNat = 0 := fun none => usable.frames (UInt64.toNat_inj.mp none)
  have output : ¬ s.host.outputChannels.toNat = 0 := fun none => usable.output (UInt64.toNat_inj.mp none)
  unfold Host.create
  rw [dif_neg usable.rate, dif_neg frames, dif_neg output]
  exact ⟨_, rfl, rfl⟩

theorem Usable.exists_scope (usable : s.Usable) {φ : Type} [Screen φ] (screen : φ) :
    ∃ scope : Scope φ, (Scope.ofSettings screen s.display).value = .ok scope := by
  have nonempty : 0 < s.display.width.toNat ∧ 0 < s.display.height.toNat :=
    ⟨Nat.pos_of_ne_zero fun none => usable.width (UInt32.toNat_inj.mp none),
      Nat.pos_of_ne_zero fun none => usable.height (UInt32.toNat_inj.mp none)⟩
  unfold Scope.ofSettings Scope.attach
  rw [dif_pos nonempty]
  exact ⟨_, rfl⟩

/-! ## Saving and loading -/

/-- Where the text of settings can be written, it is what saving writes. -/
theorem value_save {files made after : FileTree} {path : String} (parent : files.makeParent path = (.ok (), made))
    (wrote : made.write path (.bytes (textBytes s.text)) = .ok after) :
    (s.save files path).value = (.ok (), after) := by
  unfold save Logged.within
  simp only [parent, wrote, Logged.value_bind, Logged.value_pure]

theorem value_load {files : FileTree} {path text : String} (read : files.readText path = .ok text) :
    (load files path).value = Settings.parse text := by
  have file : ofFile files path = Settings.parse text := by
    unfold ofFile
    rw [read]
  unfold load Logged.within
  rw [file]
  cases Settings.parse text with
  | error error => rfl
  | ok settings => rfl

/-- Usable settings are saved as a document from which any entries can be deleted: what is left is read as
the settings with the defaults in place of those. With nothing deleted, loading gives back what was saved.
And whatever text settings are read from, a host accepts the one half of them and a scope the other. -/
theorem parse_keeping (φ : Type) [Screen φ] :
    (∀ s : Settings, s.Usable →
      (∀ keep, Settings.parse (s.textKeeping keep) = .ok (s.keeping keep)) ∧
      ∀ files path made, files.makeParent path = (.ok (), made) → made.Writable path →
        ∃ after, (s.save files path).value = (.ok (), after) ∧
          after.readText path = .ok (s.textKeeping fun _ _ => true) ∧ (load after path).value = .ok s) ∧
    ∀ text s, Settings.parse text = .ok s →
      (∃ h : Host φ, Host.create s.host = .ok h ∧ h.settings = s.host) ∧
      ∀ screen : φ, ∃ scope, (Scope.ofSettings screen s.display).value = .ok scope := by
  constructor
  · intro s usable
    have parsed : ∀ keep, Settings.parse (s.textKeeping keep) = .ok (s.keeping keep) := fun keep =>
      (s.parse_textKeeping keep).trans (checked_eq_ok_iff.mpr ⟨usable.keeping keep, rfl⟩)
    refine ⟨parsed, ?_⟩
    intro files path made parent writable
    obtain ⟨after, wrote⟩ := writable.exists_write (.bytes (textBytes s.text))
    have read : after.readText path = .ok (s.textKeeping fun _ _ => true) := by
      rw [textKeeping_all]
      exact FileTree.readText_write wrote
    have whole : Settings.parse (s.textKeeping fun _ _ => true) = .ok s := by
      rw [parsed, keeping_all]
    exact ⟨after, value_save parent wrote, read, (value_load read).trans whole⟩
  · intro text s parsed
    have usable := usable_of_parse parsed
    exact ⟨usable.exists_host φ, usable.exists_scope⟩

/-- Settings with a title over two lines that no form of quoted text holds without escapes, and an empty
path. -/
def odd : Settings where
  host := { sampleRate := 8000, bufferSize := 18446744073709551615, outputChannels := 1 }
  display :=
    { window := false
      title := "\x27\x27\x27\n\"\"\" \\u0041 \x01\r"
      width := 1
      height := 4294967295
      framesDirectory := some "" }

def noFiles : FileTree := {}

def directoryOnly : FileTree := { root := [("conf", .directory [])] }

theorem makeParent_noFiles : noFiles.makeParent "conf/host.toml" = (.ok (), directoryOnly) := by cbv

theorem writable_directoryOnly : directoryOnly.Writable "conf/host.toml" := by
  have sound : (FilePath.ofText "conf/host.toml").fault? = none := by cbv
  have path : FilePath.ofText "conf/host.toml" = ⟨["conf", "host.toml"]⟩ := by cbv
  have located : directoryOnly.locate .writing (FilePath.ofText "conf/host.toml") =
      .ok ⟨⟨[], [("conf", directoryOnly.root)]⟩, some "host.toml", false⟩ := by
    unfold FileTree.locate
    rw [sound, path]
    rfl
  have free : ∀ inner, FileEntries.get? "host.toml" [] ≠ some (.directory inner) := fun inner held => by cases held
  have unlinked : ∀ target, FileEntries.get? "host.toml" [] ≠ some (.link target) :=
    fun target held => by cases held
  exact FileTree.Target.writable ⟨located, rfl, rfl, by decide, free, unlinked⟩

theorem odd_usable : odd.Usable := ⟨by decide, by decide, by decide, by decide, by decide⟩

/-- All entries but two. -/
def exceptSizes (_ key : String) : Bool := key != "buffer_size" && key != "width"

/-- What the settings are when two entries were deleted. -/
def oddWithoutSizes : Settings := { odd with host.bufferSize := 512, display.width := 640 }

/-- The settings that are read when two entries are deleted, and those that are loaded when none is, with
a host and a scope on a screen in memory for them. -/
theorem parse_keeping_odd :
    odd.Usable ∧ noFiles.makeParent "conf/host.toml" = (.ok (), directoryOnly) ∧
      directoryOnly.Writable "conf/host.toml" ∧
    Settings.parse (odd.textKeeping exceptSizes) = .ok oddWithoutSizes ∧
    (∃ after, (odd.save noFiles "conf/host.toml").value = (.ok (), after) ∧
      after.readText "conf/host.toml" = .ok (odd.textKeeping fun _ _ => true) ∧
      (load after "conf/host.toml").value = .ok odd) ∧
    (∃ h : Host MemoryScreen, Host.create oddWithoutSizes.host = .ok h ∧ h.settings = oddWithoutSizes.host) ∧
    ∀ screen : MemoryScreen, ∃ scope, (Scope.ofSettings screen oddWithoutSizes.display).value = .ok scope := by
  obtain ⟨saved, accepted⟩ := parse_keeping MemoryScreen
  have parsed : Settings.parse (odd.textKeeping exceptSizes) = .ok oddWithoutSizes :=
    (saved odd odd_usable).1 exceptSizes
  exact ⟨odd_usable, makeParent_noFiles, writable_directoryOnly, parsed,
    (saved odd odd_usable).2 _ _ _ makeParent_noFiles writable_directoryOnly, accepted _ _ parsed⟩

end Settings

end BufferScope
