import Stencil.Engine

/-!
A user's settings: what passes use where the command line says nothing, and repositories
that projects may be started from.
-/

namespace Stencil

/-- A repository that a project may be started from. -/
structure Repository where
  name : String
  url : String
  description : String := ""
  defaultBranch : Option String := none
  deriving DecidableEq, Repr

/-- A user's settings. -/
structure Settings where
  opening : Option String := none
  closing : Option String := none
  sizeLimit : Option String := none
  ignorePatterns : List String := []
  replacements : Table String String := .empty
  repositories : List Repository := []
  deriving DecidableEq

/-- The first text that is given and not empty. -/
def firstGiven (standard : String) : List (Option String) → String
  | [] => standard
  | some text :: rest => if text.isEmpty then firstGiven standard rest else text
  | none :: rest => firstGiven standard rest

end Stencil
