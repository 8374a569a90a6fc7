import Stencil.Command
import Stencil.Discovery
import Stencil.Document.Load
import Stencil.Session.Act

/-!
The work on one folder: counting its placeholders, showing what was found, putting the given
values in place, and turning templates into their outputs.
-/

namespace Stencil.Session

open Act

/-- What becomes of the reports of a command's passes. -/
def sinkFor (run : RunOptions) (verbose : Bool) : Sink :=
  .preview (perFileLevel verbose) run.diffs

/-- The values that the run was given, none if no document is named. -/
def givenValues (sink : Sink) (run : RunOptions) : Act Values := do
  match run.input with
  | none => return {}
  | some input =>
      let (result, notices) := Document.load (← disk) input
      record sink notices
      match result with
      | .ok values => return values
      | .error _ => throw (.valuesNotLoaded input)

/-- The engine of a configuration and given values, which may bring ignore patterns. -/
def engineFor (sink : Sink) (config : Config) (given : Values) : Act Engine := do
  let engine ← orFault (Engine.ofConfig
    { config with ignorePatterns := config.ignorePatterns ++ given.ignorePatterns })
  record sink [engine.readyLine]
  if config.dryRun then say .warn "Dry run mode - no changes will be made"
  return engine

/-- Shows what was found. To ask for values takes a terminal, and there is none. -/
def showDiscovered (run : RunOptions) (census : Census) (given : Values) : Act Unit := do
  if !census.isEmpty then
    say .info "Discovered placeholders:"
    write ((Discovery.table census given).map fun line => .print (line ++ "\n"))
    if run.interactive then throw .noTerminal

/-- Counts the placeholders of a folder and shows what was found. -/
def discover (sink : Sink) (engine : Engine) (target : Path) (run : RunOptions)
    (given : Values) : Act Census := do
  let census ← perform sink fun disk => engine.analyze disk target run.onlyTemplates
  showDiscovered run census given
  return census

def replacePass (sink : Sink) (engine : Engine) (target : Path) (values : Values) :
    Act Unit := do
  let summary ← perform sink fun disk => engine.replace disk target values
  print "Replacement complete!"
  print ("  Files visited: " ++ toString summary.visited)
  print ("  Files changed: " ++ toString summary.changed)
  print ("  Replacements: " ++ toString summary.replacements)

def templatePass (sink : Sink) (engine : Engine) (target : Path) (values : Values) :
    Act Unit := do
  let summary ← perform sink fun disk => engine.materialize disk target values
  print "Template processing complete!"
  print ("  Templates processed: " ++ toString summary.changed)
  print ("  Replacements: " ++ toString summary.replacements)

/-- All of the work on a folder. Placeholders are counted first. Then values go into place, unless
only templates are wanted, and templates are turned into their outputs if that was asked for. -/
def work (target : Path) (config : Config) (run : RunOptions) (verbose : Bool) :
    Act Unit := do
  let sink := sinkFor run verbose
  let given ← givenValues sink run
  let engine ← engineFor sink config given
  let census ← discover sink engine target run given
  let values := Discovery.valuesFor census given
  if !run.onlyTemplates then replacePass sink engine target values
  if run.processTemplates then templatePass sink engine target values

end Stencil.Session
