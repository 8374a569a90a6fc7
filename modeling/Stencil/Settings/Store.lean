import Stencil.Disk.Files
import Stencil.Document.Yaml
import Stencil.Event
import Stencil.Failure
import Stencil.Settings.Render
import Stencil.Text.Blank

/-!
Settings kept in a file of the user's home.
-/

namespace Stencil.Settings

/-- Where the settings are kept. -/
def pathIn (home : Path) : Path := (home.join ".tokensmith").join "config.yaml"

/-- Reads settings. A blank document holds none. -/
def parse? (text : String) : Option Settings :=
  if Text.isBlankText text then some {} else Document.Yaml.settings? text

/-- Reads settings from a file. Where there is none, nothing is set. -/
def load (disk : Disk) (path : Path) : Except Failure Settings × List Notice :=
  if !disk.has path.address then
    (.ok {},
      [.line .debug ("No configuration at " ++ Text.quoted path.text ++ ", using defaults")])
  else
    match disk.readText path.address with
    | .error _ => (.error (.settingsNotRead path), [])
    | .ok text =>
        match parse? text with
        | none => (.error (.settingsMalformed path), [])
        | some settings => (.ok settings, [])

/-- Writes settings to a file, and makes the folders above it. A failure comes with the disk
as it was left. -/
def save (settings : Settings) (disk : Disk) (path : Path) : Except (Failure × Disk) Disk :=
  match disk.makeFolders path.parent with
  | (disk, some _) => .error (.folderNotMade path.parent, disk)
  | (disk, none) =>
      match disk.write path.address (Text.Utf8.encode settings.render) with
      | .error _ => .error (.settingsNotWritten path, disk)
      | .ok disk => .ok disk

/-- Removes the file of the settings, and tells whether there was one. -/
def reset (disk : Disk) (path : Path) : Except Failure (Bool × Disk) :=
  if !disk.has path.address then .ok (false, disk)
  else
    match disk.remove path.address with
    | .error _ => .error (.settingsNotRemoved path)
    | .ok disk => .ok (true, disk)

end Stencil.Settings
