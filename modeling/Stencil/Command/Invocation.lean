import Stencil.Command.Reading

/-!
Reading a command line: options, the name of a command, and the options of the command.
-/

namespace Stencil

open Command (Opt Scope Reading Word)

/-- The options for passes among those that were read. -/
def RunOptions.ofReading (reading : Reading) : RunOptions :=
  { input := (reading.valueOf? .input).map Path.mk
    opening := reading.valueOf? .opening
    closing := reading.valueOf? .closing
    sizeLimit := reading.valueOf? .sizeLimit
    ignorePatterns := reading.valuesOf .ignore
    interactive := reading.has .interactive
    processTemplates := reading.has .processTemplates
    onlyTemplates := reading.has .onlyTemplates
    literal := reading.has .literal
    dryRun := reading.has .dryRun
    diffs := reading.has .diffs }

/-- Whether options exclude each other, or lack one that they call for. -/
def Command.complaint? (scope : Scope) (reading : Reading) : Option Refusal :=
  if reading.has .display && reading.has .reset then some .conflict
  else if scope.required.any fun opt => !reading.has opt then some .missingArgument
  else if reading.given.any fun entry => entry.1.requires?.any fun opt => !reading.has opt then
    some .missingArgument
  else none

/-- The command of a name with the options that were read, if it has those it calls for. -/
def Command.ofReading? (scope : Scope) (reading : Reading) : Option Command :=
  let run := RunOptions.ofReading reading
  match scope with
  | .template => (reading.valueOf? .target).map fun target => .template ⟨target⟩ run
  | .clone =>
      match reading.valueOf? .repository, reading.valueOf? .output with
      | some repository, some output =>
          some (.clone repository ⟨output⟩ (reading.valueOf? .branch) (reading.has .fresh) run)
      | _, _ => none
  | .generate =>
      some (.generate (reading.valueOf? .repositoryFilter) (reading.valueOf? .branch)
        ((reading.valueOf? .output).map Path.mk) run)
  | .setup => some (.setup (reading.has .display) (reading.has .reset))

namespace Invocation

def ofScope (leading : Reading) (scope : Scope) (arguments : List String) :
    Except Refusal Invocation :=
  match Reading.words {} scope.options arguments with
  | .error refusal => .error refusal
  | .ok reading =>
      match Command.complaint? scope reading, Command.ofReading? scope reading with
      | none, some command =>
          .ok ⟨command, leading.has .verbose || reading.has .verbose,
            leading.has .quiet || reading.has .quiet⟩
      | some refusal, _ => .error refusal
      | none, none => .error .missingArgument

/-- The word that asks for help in place of a command. -/
def helpName : String := "help"

/-- Whether a word names a command, or asks for help. -/
def isName (text : String) : Bool := (Scope.ofName? text).isSome || text = helpName

/-- Reads the names that help is asked for. Commands have no commands of their own. -/
def helpOn : List String → Refusal
  | [] => .help
  | [name] => if isName name then .help else .unknownCommand
  | _ => .unknownCommand

/-- What a command line without a command is told. -/
def withoutCommand (leading : Reading) : Refusal :=
  if leading.given.isEmpty then .helpInstead else .missingCommand

/-- Reads words up to the name of a command. -/
def ofWords (leading : Reading) : List String → Except Refusal Invocation
  | [] => .error (withoutCommand leading)
  | text :: rest =>
      match Word.ofText text with
      | .divider =>
          match rest with
          | [] => .error (withoutCommand leading)
          | next :: _ => .error (if isName next then .unknownArgument else .unknownCommand)
      | .plain name =>
          match Scope.ofName? name with
          | some scope => ofScope leading scope rest
          | none => .error (if name = helpName then helpOn rest else .unknownCommand)
      | word =>
          match leading.word Command.leadingOptions word with
          | .error refusal => .error refusal
          | .ok leading => ofWords leading rest

def parse (arguments : List String) : Except Refusal Invocation := ofWords {} arguments

end Invocation

end Stencil
