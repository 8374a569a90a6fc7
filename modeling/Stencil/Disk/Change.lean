import Stencil.Disk

/-!
What distinguishes a disk from an earlier one, as changes that lead from the one to the
other.
-/

namespace Stencil.Disk

/-- A change at one location. -/
inductive Change
  | put (location : Location) (node : Node)
  | erase (location : Location) (node : Node)

/-- The nodes that are new or other than they were. A folder comes before what it holds if
it was put there first. -/
def changed (before after : Disk) : List Change :=
  (after.nodes.entries.filter fun (location, node) => before.get? location != some node).map
    fun (location, node) => .put location node

/-- The nodes that are gone, and not replaced by others. -/
def gone (before after : Disk) : List Change :=
  (before.nodes.entries.filter fun (location, _) => (after.get? location).isNone).map
    fun (location, node) => .erase location node

def changes (before after : Disk) : List Change := changed before after ++ gone before after

end Stencil.Disk
