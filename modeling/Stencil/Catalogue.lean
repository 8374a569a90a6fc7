import Stencil.Failure
import Stencil.Settings
import Stencil.Text.Case

/-!
Choosing a repository to start a project from: one of those in the settings, or one that is
named by its address.
-/

namespace Stencil

namespace Repository

/-- The branch of a repository that names none. -/
def usualBranch : String := "main"

/-- Whether a text is the address of a repository. -/
def isAddress (text : String) : Bool :=
  Occurrence.occursIn "://".toList text.toList || "git@".toList.isPrefixOf text.toList

def isSecureShell (url : String) : Bool :=
  "git@".toList.isPrefixOf url.toList || "ssh://".toList.isPrefixOf url.toList

def label (repository : Repository) : String :=
  repository.name ++ " (" ++ repository.url ++ ")" ++
    if repository.description.isEmpty then "" else " - " ++ repository.description

/-- The repository at an address that no settings tell of. -/
def ofAddress (url : String) : Repository :=
  { name := url, url := url, defaultBranch := some usualBranch }

/-- Whether the name or the address of a repository contains a text in small letters. -/
def mentions (repository : Repository) (needle : String) : Bool :=
  Occurrence.occursIn needle.toList (Text.lower repository.name).toList ||
    Occurrence.occursIn needle.toList (Text.lower repository.url).toList

/-- The branch to take: the one asked for, or the repository's own, or the usual one. -/
def branch (repository : Repository) (asked : Option String) : String :=
  firstGiven usualBranch [asked, repository.defaultBranch]

end Repository

namespace Catalogue

/-- The repositories whose name or address contains the filter, in either case. A filter
that is an address stands for a repository of its own. -/
def candidates (repositories : List Repository) (filter : Option String) : List Repository :=
  match filter with
  | none | some "" => repositories
  | some filter =>
      let offered :=
        if Repository.isAddress filter then repositories ++ [.ofAddress filter]
        else repositories
      offered.filter fun repository => repository.mentions (Text.lower filter)

/-- The first candidate. Where there are more, and `ask` says so, the user would have to be
asked. -/
def choose (candidates : List Repository) (ask : Bool) : Except Failure Repository :=
  match candidates with
  | [] => .error .nothingToStartFrom
  | [repository] => .ok repository
  | repository :: _ => if ask then .error .noTerminal else .ok repository

end Catalogue

end Stencil
