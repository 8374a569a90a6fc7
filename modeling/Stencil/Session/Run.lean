import Stencil.Catalogue
import Stencil.Checkout
import Stencil.Command.Invocation
import Stencil.Session.Work
import Stencil.Settings.Choice
import Stencil.Settings.Store

/-!
A run of the program: from a command line and a disk to what is written out, the disk that
is left behind, and how the run ends.
-/

namespace Stencil.Session

open Act

/-- Writes lines of a record that holds no reports to the log. -/
def note (notices : List Notice) : Act Unit := record .silent notices

def loadSettings (home : Path) : Act Settings := do
  let (result, notices) := Settings.load (← disk) (Settings.pathIn home)
  note notices
  orFail result

/-- The configuration of a command, with a size limit that can be read. -/
def checkedConfig (settings : Settings) (run : RunOptions) : Act Config := do
  let config := settings.configFor run
  let _ ← orFault (SizeLimit.parse config.sizeLimit)
  return config

/-- Works on a folder in place. -/
def template (home target : Path) (run : RunOptions) (verbose : Bool) : Act Unit := do
  say .info ("Target directory: " ++ Text.quoted target.text)
  let disk ← disk
  if !disk.has target.address then throw (.noTarget target)
  if !disk.hasFolder target.address then throw (.targetNotFolder target)
  let config ← checkedConfig (← loadSettings home) run
  work target config run verbose

/-- Tries to clone a repository into a folder. None can be reached from a disk alone, so all
that is left of the attempt are the folders above the output. -/
def fetch (repository : String) (output : Path) : Act Unit := do
  let disk ← disk
  orFail (Checkout.prepare disk output)
  say .debug
    ("Cloning repository '" ++ repository ++ "' into " ++ Text.quoted output.text)
  if !disk.has output.address then setDisk (disk.makeFolders output.parent).1
  throw (.notCloned repository)

/-- Works on a clone of a repository. The settings are looked at before anything is cloned. -/
def clone (home : Path) (repository : String) (output : Path) (run : RunOptions) :
    Act Unit := do
  say .info ("Repository: " ++ repository)
  say .info ("Output directory: " ++ Text.quoted output.text)
  let _ ← checkedConfig (← loadSettings home) run
  fetch repository output

/-- Works on a clone of a repository that is chosen from the settings. To ask where it is to
go takes a terminal. -/
def generate (home : Path) (filter : Option String) (output : Option Path)
    (run : RunOptions) : Act Unit := do
  let settings ← loadSettings home
  let _ ← checkedConfig settings run
  let chosen ← orFail
    (Catalogue.choose (Catalogue.candidates settings.repositories filter) run.interactive)
  match output with
  | none => throw .noTerminal
  | some output => fetch chosen.url output

def settingsLines (path : Path) (settings : Settings) : List String :=
  let usual : Config := {}
  ["Current configuration (" ++ path.text ++ "):", "",
    "  start_delim:     " ++ settings.opening.getD usual.opening,
    "  end_delim:       " ++ settings.closing.getD usual.closing,
    "  file_size_limit: " ++ settings.sizeLimit.getD usual.sizeLimit] ++
    (if settings.ignorePatterns.isEmpty then []
      else ["  ignore_patterns: " ++ ", ".intercalate settings.ignorePatterns]) ++
    (settings.replacements.entries.map fun (old, new) =>
      "  APPLY_REPLACE:   " ++ Text.quoted old ++ " -> " ++ Text.quoted new) ++
    (settings.repositories.map fun repository =>
      "  template:        " ++ repository.name ++ " (" ++ repository.url ++ ")") ++
    [""]

def resetSettings (path : Path) : Act Unit := do
  let (removed, disk) ← orFail (Settings.reset (← disk) path)
  setDisk disk
  print ((if removed then "Configuration removed: " else "No configuration found at ") ++
    path.text)

/-- Looks after the settings. To ask for new ones takes a terminal, and there is none. -/
def setup (home : Path) (display reset : Bool) : Act Unit := do
  if reset then resetSettings (Settings.pathIn home)
  else
    let settings ← loadSettings home
    if display then
      write ((settingsLines (Settings.pathIn home) settings).map fun line =>
        .print (line ++ "\n"))
    else throw .noTerminal

def carryOut (home : Path) (invocation : Invocation) : Act Unit := do
  say .info "Starting tokensmith"
  match invocation.command with
  | .template target run => template home target run invocation.verbose
  | .clone repository output _ _ run => clone home repository output run
  | .generate filter _ output run => generate home filter output run
  | .setup display reset => setup home display reset
  say .info "Tokensmith completed successfully"

/-- How a run ends. -/
inductive Ending
  | refused (refusal : Refusal)
  | failed (failure : Failure)
  | completed
  deriving DecidableEq, Repr

def Ending.status : Ending → Nat
  | refused refusal => refusal.status
  | failed _ => 1
  | completed => 0

def Ending.complaint : Ending → String
  | failed failure => "Error: " ++ failure.message
  | _ => ""

/-- What a run leaves: a disk, what it wrote out, and how it ended. -/
structure Report where
  disk : Disk
  text : String
  ending : Ending

/-- How much of the log an invocation asks for. -/
def verbosity (invocation : Invocation) : Verbosity :=
  if invocation.quiet then .quiet else if invocation.verbose then .verbose else .standard

/-- What is written out where no command is carried out. -/
def Refusal.text : Refusal → String
  | .version => "tokensmith 0.1.0\n"
  | _ => ""

/-- Carries out an accepted command line. -/
def runInvocation (home : Path) (invocation : Invocation) (disk : Disk) : Report :=
  let (result, stand) := (carryOut home invocation).run ⟨disk, []⟩
  { disk := stand.disk
    text := Output.textOf (verbosity invocation) stand.outputs
    ending :=
      match result with
      | .ok () => .completed
      | .error failure => .failed failure }

def run (home : Path) (arguments : List String) (disk : Disk) : Report :=
  match Invocation.parse arguments with
  | .error refusal => ⟨disk, Refusal.text refusal, .refused refusal⟩
  | .ok invocation => runInvocation home invocation disk

end Stencil.Session
