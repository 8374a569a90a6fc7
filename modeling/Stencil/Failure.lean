import Stencil.Fault

/-!
The causes for which a run of the program ends early, and what it then says.
-/

namespace Stencil

/-- Why a run ends early. -/
inductive Failure
  | noTarget (path : Path)
  | targetNotFolder (path : Path)
  | noTerminal
  | nothingToStartFrom
  | outputNotFolder (path : Path)
  | notRemoved (path : Path)
  | notCloned (repository : String)
  | valuesNotLoaded (path : Path)
  | settingsNotRead (path : Path)
  | settingsMalformed (path : Path)
  | folderNotMade (path : Path)
  | settingsNotWritten (path : Path)
  | settingsNotRemoved (path : Path)
  | fault (cause : Fault)
  deriving DecidableEq, Repr

def Failure.message : Failure → String
  | noTarget path => "Target directory does not exist: " ++ Text.quoted path.text
  | targetNotFolder path => "Target must be a directory: " ++ Text.quoted path.text
  | noTerminal => "The input device is not a TTY"
  | nothingToStartFrom =>
      "No templates configured or matched; add some under \x60templates\x60 in the configuration"
  | outputNotFolder path =>
      "Output path exists and is not a directory: " ++ Text.quoted path.text
  | notRemoved path => "Failed to remove directory: " ++ Text.quoted path.text
  | notCloned repository => "Failed to clone the repository: " ++ repository
  | valuesNotLoaded path => "Failed to load values from " ++ Text.quoted path.text
  | settingsNotRead path => "Failed to read configuration: " ++ Text.quoted path.text
  | settingsMalformed path => "Invalid configuration: " ++ Text.quoted path.text
  | folderNotMade path => "Failed to create directory: " ++ Text.quoted path.text
  | settingsNotWritten path => "Failed to write configuration: " ++ Text.quoted path.text
  | settingsNotRemoved path => "Failed to remove configuration: " ++ Text.quoted path.text
  | fault cause => cause.message

end Stencil
