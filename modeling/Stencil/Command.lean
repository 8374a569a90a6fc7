import Stencil.Path

/-!
What may be asked for on the command line, and why a command line may be refused.
-/

namespace Stencil

/-- How the passes of a command are to be run. -/
structure RunOptions where
  input : Option Path := none
  opening : Option String := none
  closing : Option String := none
  sizeLimit : Option String := none
  ignorePatterns : List String := []
  interactive : Bool := false
  processTemplates : Bool := false
  onlyTemplates : Bool := false
  literal : Bool := false
  dryRun : Bool := false
  diffs : Bool := false
  deriving DecidableEq, Repr

/-- A command: work on a folder, on a fresh clone of a repository, on a clone of one of the
repositories in the settings, or look after the settings themselves. -/
inductive Command
  | template (target : Path) (run : RunOptions)
  | clone (repository : String) (output : Path) (branch : Option String) (fresh : Bool)
      (run : RunOptions)
  | generate (filter branch : Option String) (output : Option Path) (run : RunOptions)
  | setup (display reset : Bool)
  deriving DecidableEq, Repr

/-- A command, and how much it says. -/
structure Invocation where
  command : Command
  verbose : Bool
  quiet : Bool
  deriving DecidableEq, Repr

/-- Why a command line leads to no command. The first three only ask for text to read. -/
inductive Refusal
  | help
  | version
  | helpInstead
  | missingCommand
  | unknownCommand
  | unknownArgument
  | missingArgument
  | invalidValue
  | tooManyValues
  | conflict
  deriving DecidableEq, Repr

/-- The status that a refused command line ends with: zero for what was asked for. -/
def Refusal.status : Refusal → Nat
  | help | version => 0
  | _ => 2

end Stencil
