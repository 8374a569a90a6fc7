import Stencil.Proofs.Disk.Files
import Stencil.Proofs.Settings.Render
import Stencil.Proofs.Text.Decoding
import Stencil.Settings.Store

/-! Settings that were saved are what is loaded. The text that is written is never blank, so that it
is read as a document, and where a save succeeds the file is found with that text in it. -/

namespace Stencil.Settings

theorem parse?_render (settings : Settings) : parse? settings.render = some settings := by
  rw [parse?, isBlankText_render, if_neg Bool.false_ne_true]
  exact Document.Yaml.settings?_of_parse (parse_render settings)

/-- What saved settings leave behind is the text they are written as. -/
theorem read_of_save {settings : Settings} {disk saved : Disk} {path : Path}
    (hSave : settings.save disk path = .ok saved) :
    saved.read path.address = .ok (Text.Utf8.encode settings.render) := by
  rw [save] at hSave
  split at hSave
  · cases hSave
  · split at hSave
    · cases hSave
    · next hWrite =>
        cases hSave
        exact Disk.read_write hWrite

/-- Settings that were saved are loaded as they were, whatever their texts hold: with their lists and
the entries of their table in the same order, and with an empty text told from none. -/
theorem saved_settings_are_loaded {settings : Settings} {disk saved : Disk} {path : Path}
    (hSave : settings.save disk path = .ok saved) : load saved path = (.ok settings, []) := by
  have hRead := read_of_save hSave
  obtain ⟨location, links, hFollow⟩ := Disk.read_eq_ok_iff.mp hRead
  have hHas : saved.has path.address = true := by
    rw [Disk.has, Disk.node, hFollow]
    rfl
  have hText : saved.readText path.address = .ok settings.render := by
    rw [Disk.readText, hRead]
    simp only [Text.Utf8.decode?_encode]
  rw [load, hHas, hText]
  simp [parse?_render]

/-- Texts that are empty, look like other things or run over lines, an empty branch, and a table of
which the keys are not sorted. -/
theorem unusual_settings_are_loaded :
    let settings : Settings :=
      { opening := some "", closing := some "null", sizeLimit := some "0x10",
        ignorePatterns := ["*.tmp", " # kept\n\n", "*.tmp"],
        replacements := .ofList [("b: c", "\t"), ("a", "")],
        repositories := [⟨"one", "- x", "", some ""⟩, ⟨"two", "~", "line\nline", none⟩] }
    let path : Path := ⟨"/home/.tokensmith/config.yaml"⟩
    ∃ saved, settings.save .empty path = .ok saved ∧ load saved path = (.ok settings, []) := by
  intro settings path
  have hSaved : (settings.save .empty path).isOk = true := by decide +kernel
  cases hSave : settings.save .empty path with
  | ok saved => exact ⟨saved, rfl, saved_settings_are_loaded hSave⟩
  | error failure =>
      rw [hSave] at hSaved
      cases hSaved

end Stencil.Settings
