import Stencil.Disk.Files
import Stencil.Event
import Stencil.Failure

/-!
The folder that a repository is cloned into.
-/

namespace Stencil.Checkout

/-- Whether a repository can be cloned into a folder: it is missing, or it is empty. For one
that holds something the user would have to be asked. -/
def prepare (disk : Disk) (output : Path) : Except Failure Unit :=
  if !disk.has output.address then .ok ()
  else
    match disk.enter output.address with
    | .error _ => .error (.outputNotFolder output)
    | .ok (folder, _) =>
        if (disk.listing folder).isEmpty then .ok () else .error .noTerminal

/-- The folder that holds the history of a clone. -/
def historyPath (output : Path) : Path := output.join ".git"

/-- Removes the history of a clone, and tells whether there was one. -/
def removeHistory (disk : Disk) (output : Path) : Except Failure (Bool × Disk) :=
  if !disk.has (historyPath output).address then .ok (false, disk)
  else
    match disk.removeFolder (historyPath output).address with
    | .error _ => .error (.notRemoved (historyPath output))
    | .ok disk => .ok (true, disk)

end Stencil.Checkout
