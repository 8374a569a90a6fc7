import Stencil.Settings
import Stencil.Yaml.Render

/-!
Settings written as a YAML document. What is not set, and what is empty, is left out.
-/

namespace Stencil.Settings

open Yaml.Render (entry item indentStep)

/-- An entry for a text that may be missing. -/
def optionalEntry (indent : Nat) (key : String) : Option String → List Char
  | none => []
  | some text => entry indent key.toList text.toList

/-- A key whose value follows on the next lines. -/
def heading (indent : Nat) (key : String) : List Char :=
  Yaml.Render.spaces indent ++ key.toList ++ [':', '\n']

/-- The patterns, one to a line. -/
def patternLines : List String → List Char
  | [] => []
  | patterns => heading 0 "ignore_patterns" ++ patterns.flatMap fun p => item 0 p.toList

/-- The table of texts to replace inside values. -/
def replacementLines (table : Table String String) : List Char :=
  if table.isEmpty then []
  else
    heading 0 "functions" ++ heading indentStep "APPLY_REPLACE" ++
      table.entries.flatMap fun (old, new) =>
        entry (indentStep + indentStep) old.toList new.toList

/-- The entries of a repository, as they stand in a sequence. -/
def repositoryLines (repository : Repository) : List Char :=
  let lines :=
    entry indentStep "name".toList repository.name.toList ++
      entry indentStep "url".toList repository.url.toList ++
      (if repository.description.isEmpty then []
        else entry indentStep "description".toList repository.description.toList) ++
      optionalEntry indentStep "default_branch" repository.defaultBranch
  '-' :: ' ' :: lines.drop indentStep

def repositoriesLines : List Repository → List Char
  | [] => []
  | repositories => heading 0 "templates" ++ repositories.flatMap repositoryLines

def render (settings : Settings) : String :=
  let lines :=
    optionalEntry 0 "start_delim" settings.opening ++
      optionalEntry 0 "end_delim" settings.closing ++
      optionalEntry 0 "file_size_limit" settings.sizeLimit ++
      patternLines settings.ignorePatterns ++
      replacementLines settings.replacements ++
      repositoriesLines settings.repositories
  if lines.isEmpty then "{}\n" else String.ofList lines

end Stencil.Settings
