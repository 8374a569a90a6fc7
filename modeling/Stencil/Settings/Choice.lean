import Stencil.Command
import Stencil.Settings

/-!
How passes are run, chosen from three places: what the command line says wins over the
settings, and they win over what is usual.
-/

namespace Stencil

/-- The configuration that settings and a command's options lead to. -/
def Settings.configFor (settings : Settings) (run : RunOptions) : Config :=
  let usual : Config := {}
  { opening := firstGiven usual.opening [run.opening, settings.opening]
    closing := firstGiven usual.closing [run.closing, settings.closing]
    sizeLimit := firstGiven usual.sizeLimit [run.sizeLimit, settings.sizeLimit]
    ignorePatterns := settings.ignorePatterns ++ run.ignorePatterns
    suffix := usual.suffix
    strategy := if run.literal then .literal else .tokenized
    replacements := settings.replacements
    dryRun := run.dryRun }

end Stencil
