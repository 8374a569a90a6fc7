import Stencil.Engine
import Stencil.Failure
import Stencil.Log

/-!
The steps of a run. A step changes the disk, writes something out, and gives a result or the
failure that ends the run; what was done before a failure stays done.
-/

namespace Stencil.Session

/-- Where a run stands: the disk as it is now, and all that was written out. -/
structure Stand where
  disk : Disk
  outputs : List Output

/-- A step of a run. -/
abbrev Act (α : Type) := ExceptT Failure (StateM Stand) α

namespace Act

def disk : Act Disk := do return (← get).disk

/-- Leaves another disk. -/
def setDisk (disk : Disk) : Act Unit := modify fun stand => { stand with disk := disk }

def write (outputs : List Output) : Act Unit :=
  modify fun stand => { stand with outputs := stand.outputs ++ outputs }

def say (level : Level) (text : String) : Act Unit := write [.log level text]

def print (line : String) : Act Unit := write [.print (line ++ "\n")]

/-- Sends the reports of a record to a sink. -/
def record (sink : Sink) (notices : List Notice) : Act Unit := write (sink.outputsOf notices)

/-- Goes on with a result, or fails. -/
def orFail {α : Type} : Except Failure α → Act α
  | .ok a => pure a
  | .error failure => throw failure

/-- Goes on with a result, or fails with the fault. -/
def orFault {α : Type} : Except Fault α → Act α
  | .ok a => pure a
  | .error fault => throw (.fault fault)

def perform {α : Type} (sink : Sink) (pass : Disk → Outcome α) : Act α := do
  let outcome := pass (← disk)
  setDisk outcome.disk
  record sink outcome.notices
  orFault outcome.result

end Act

end Stencil.Session
