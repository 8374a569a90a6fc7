import Stencil.Command

/-!
The options of the command line: how each is spelled, whether it takes a value, and where
it may stand.
-/

namespace Stencil.Command

/-- An option. -/
inductive Opt
  | help
  | version
  | verbose
  | quiet
  | target
  | repository
  | output
  | branch
  | fresh
  | repositoryFilter
  | input
  | opening
  | closing
  | sizeLimit
  | ignore
  | interactive
  | processTemplates
  | onlyTemplates
  | literal
  | dryRun
  | diffs
  | display
  | reset
  deriving DecidableEq, Repr

namespace Opt

def long : Opt → String
  | help => "help"
  | version => "version"
  | verbose => "verbose"
  | quiet => "quiet"
  | target => "dir"
  | repository => "repo"
  | output => "output-dir"
  | branch => "branch"
  | fresh => "fresh"
  | repositoryFilter => "template"
  | input => "input"
  | opening => "start-delim"
  | closing => "end-delim"
  | sizeLimit => "file-size-limit"
  | ignore => "ignore"
  | interactive => "interactive"
  | processTemplates => "process-templates"
  | onlyTemplates => "only-templates"
  | literal => "literal"
  | dryRun => "dry-run"
  | diffs => "diff"
  | display => "show"
  | reset => "reset"

def short? : Opt → Option Char
  | help => some 'h'
  | version => some 'V'
  | verbose => some 'v'
  | quiet => some 'q'
  | target => some 'd'
  | repository => some 'r'
  | output => some 'o'
  | branch => some 'b'
  | repositoryFilter => some 't'
  | input => some 'i'
  | interactive => some 'p'
  | _ => none

def takesValue : Opt → Bool
  | target | repository | output | branch | repositoryFilter => true
  | input | opening | closing | sizeLimit | ignore => true
  | _ => false

/-- Whether the value of an option is a path, and so may not be empty. -/
def isPath : Opt → Bool
  | target | output | input => true
  | _ => false

/-- Whether an option may be given more than once. -/
def repeats (opt : Opt) : Bool := opt = ignore

/-- What an option is refused without. -/
def requires? : Opt → Option Opt
  | onlyTemplates => some processTemplates
  | diffs => some dryRun
  | _ => none

/-- The options that tell how passes are run. -/
def ofRun : List Opt :=
  [input, opening, closing, sizeLimit, ignore, interactive, processTemplates, onlyTemplates,
    literal, dryRun, diffs]

def everywhere : List Opt := [help, verbose, quiet]

end Opt

/-- The commands by name. -/
inductive Scope
  | template
  | clone
  | generate
  | setup
  deriving DecidableEq, Repr

namespace Scope

def ofName? : String → Option Scope
  | "template" => some template
  | "clone" => some clone
  | "generate" => some generate
  | "setup" => some setup
  | _ => none

/-- The options that may follow the name of a command. -/
def options : Scope → List Opt
  | template => Opt.everywhere ++ .target :: Opt.ofRun
  | clone => Opt.everywhere ++ [.repository, .output, .branch, .fresh] ++ Opt.ofRun
  | generate => Opt.everywhere ++ [.repositoryFilter, .branch, .output] ++ Opt.ofRun
  | setup => Opt.everywhere ++ [.display, .reset]

def required : Scope → List Opt
  | template => [.target]
  | clone => [.repository, .output]
  | _ => []

end Scope

/-- The options that may stand in front of the name of a command. -/
def leadingOptions : List Opt := .version :: Opt.everywhere

end Stencil.Command
