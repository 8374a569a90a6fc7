import Stencil.Diff.Hunk
import Stencil.Event
import Stencil.Text.Quoted

/-!
What a program writes to its standard output: lines of a log, each of some level, and text
of its own. A sink tells what becomes of a report; how verbose the log is tells which of
its lines are seen.
-/

namespace Stencil

/-- One piece of what a program writes. -/
inductive Output
  | log (level : Level) (text : String)
  | print (text : String)
  deriving DecidableEq, Repr

/-- Which lines of the log are seen. -/
inductive Verbosity
  | quiet
  | standard
  | verbose
  deriving DecidableEq, Repr

def Verbosity.shows : Verbosity → Level → Bool
  | quiet, _ => false
  | standard, .debug => false
  | standard, _ => true
  | verbose, _ => true

/-- The level at which a report is logged. `perFile` is the level of what is said about
single files that something was done to. -/
def Event.level (perFile : Level) : Event → Level
  | tokenError _ _ _ => .warn
  | replaced _ 0 | materialized _ _ 0 => .debug
  | binarySkipped _ | ignored _ | preview _ _ _ => .debug
  | _ => perFile

/-- What becomes of reports. A preview may be logged, or shown as the difference that it
would make. -/
inductive Sink
  | silent
  | log (perFile : Level)
  | preview (perFile : Level) (diffs : Bool)
  deriving DecidableEq, Repr

/-- The level of what is said about single files. -/
def perFileLevel (verbose : Bool) : Level := if verbose then .info else .debug

/-- The difference that a write would make, as it is printed. -/
def showDifference (path : Path) (before after : String) : String :=
  "\n📝 Would update: " ++ path.text ++ "\n" ++
    match Diff.render before after with
    | some difference => difference ++ "\n"
    | none => "No changes detected.\n"

namespace Sink

def outputs : Sink → Event → List Output
  | silent, _ => []
  | preview _ true, .preview path before after => [.print (showDifference path before after)]
  | preview _ false, event@(.preview _ _ _) => [.log .info event.message]
  | log perFile, event | preview perFile _, event =>
      [.log (event.level perFile) event.message]

/-- What a sink makes of a record. -/
def outputsOf (sink : Sink) (notices : List Notice) : List Output :=
  notices.flatMap fun notice =>
    match notice with
    | .report event => sink.outputs event
    | .line level text => [.log level text]

end Sink

namespace Output

def levelName : Level → String
  | .debug => "DEBUG"
  | .info => "INFO"
  | .warn => "WARN"

/-- Control characters that a log shows by two digits: those that a terminal acts on. -/
def terminalControls : List Char := ['\x07', '\x08', '\x0c', '\x1b', '\x7f']

/-- How a character stands in a line of the log. -/
def logChar (c : Char) : List Char :=
  if terminalControls.contains c then
    ['\\', 'x', Nat.digitChar (c.toNat / 16), Nat.digitChar (c.toNat % 16)]
  else if 0x80 ≤ c.toNat && c.toNat ≤ 0x9f then
    ['\\', 'u', '\x7b'] ++ Text.hexDigits c.toNat ++ ['\x7d']
  else [c]

def text (verbosity : Verbosity) : Output → String
  | print text => text
  | log level text =>
      if verbosity.shows level then
        levelName level ++ " " ++ String.ofList (text.toList.flatMap logChar) ++ "\n"
      else ""

def textOf (verbosity : Verbosity) (outputs : List Output) : String :=
  String.join (outputs.map (text verbosity))

end Output

end Stencil
