import Stencil.Path
import Stencil.Text.Blank
import Stencil.Text.Case

/-!
Which entries of a folder a pass looks at: ignore patterns, a size limit, and folders that
are never entered.
-/

namespace Stencil

/-- Whether an entry is looked at, and if not, why. -/
inductive Eligibility
  | eligible
  | ignored
  | skippedFolder
  | tooLarge (size limit : Nat)
  deriving DecidableEq, Repr

/-- A size limit and ignore patterns. Patterns are kept trimmed, in small letters, and none
of them is empty. -/
structure Filter where
  sizeLimit : Nat
  patterns : List String

namespace Filter

def skippedFolders : List String := [".git", "node_modules", "vendor", "dist", "build", "bin"]

/-- Whether a folder of this name is never entered. -/
def isSkippedFolder (name : String) : Bool := skippedFolders.contains name

/-- A pattern as it is compared. -/
def normalize (pattern : String) : String :=
  Text.lower (String.ofList (Text.trim pattern.toList))

/-- The filter of a limit and patterns as they were written. Blank patterns are dropped. -/
def ofPatterns (sizeLimit : Nat) (patterns : List String) : Filter :=
  ⟨sizeLimit, (patterns.map normalize).filter fun pattern => !pattern.isEmpty⟩

/-- A path as patterns are compared with it: backslashes count as slashes. -/
def comparable (relative : Path) : String :=
  Text.lower (String.ofList (relative.text.toList.map fun c => if c = '\\' then '/' else c))

/-- Whether some pattern occurs in the path. -/
def isIgnored (filter : Filter) (relative : Path) : Bool :=
  filter.patterns.any fun pattern =>
    Occurrence.occursIn pattern.toList (comparable relative).toList

/-- Checks an entry by its path from the root of the walk. -/
def check (filter : Filter) (relative : Path) (isFolder : Bool) (size : Nat) : Eligibility :=
  if filter.isIgnored relative then .ignored
  else if isFolder then
    if isSkippedFolder (relative.fileName?.getD "") then .skippedFolder else .eligible
  else if filter.sizeLimit < size then .tooLarge size filter.sizeLimit
  else .eligible

end Filter

end Stencil
