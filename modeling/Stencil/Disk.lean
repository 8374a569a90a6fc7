import Stencil.Path
import Stencil.Table
import Stencil.Text.Utf8

/-!
A disk: what stands below its top, and the working folder of the program. Locations are
absolute, lists of names from the top down, so that a change at one location says nothing
about any other. How written paths lead to locations is the matter of
`Stencil.Disk.Resolution`. There are no permissions, owners or times, so that nothing is
refused but for what stands on the disk.
-/

namespace Stencil

/-- Whether a text can name an entry of a folder. -/
def Name.isProper (text : String) : Bool :=
  text ≠ "" && text ≠ "." && text ≠ ".." && !text.toList.contains '/'

/-- The name of an entry in a folder. It is a Unicode text: names of other bytes, which some
systems allow, are left out, and with them what is done about a name that is no text (it has
no extension and no suffix, and patterns see replacement characters in its place). -/
structure Name where
  text : String
  proper : Name.isProper text = true
  deriving DecidableEq

def Name.ofText? (text : String) : Option Name :=
  if h : Name.isProper text = true then some ⟨text, h⟩ else none

/-- The names from the top of the disk down to an entry. -/
abbrev Location := List Name

/-- A location as a path from the top of the disk. -/
def Location.text (location : Location) : String := "/".intercalate (location.map Name.text)

/-- What stands at a location. -/
inductive Node
  | file (content : Bytes)
  | link (target : Path)
  | folder
  deriving DecidableEq

/-- The nodes below the top, and the folder that relative paths start from. The program never
goes to another working folder. -/
structure Disk where
  nodes : Table Location Node
  workingFolder : Location := []
  deriving DecidableEq

namespace Disk

/-- The disk with nothing on it. Its top is the working folder. -/
def empty : Disk := ⟨.empty, []⟩

/-- What stands at a location. The top is always there, as a folder. -/
def get? (disk : Disk) (location : Location) : Option Node :=
  if location.isEmpty then some .folder else disk.nodes.get? location

def put (disk : Disk) (location : Location) (node : Node) : Disk :=
  { disk with nodes := disk.nodes.insert location node }

def erase (disk : Disk) (location : Location) : Disk :=
  { disk with nodes := disk.nodes.erase location }

/-- Takes away a location and all that stands below it. -/
def eraseBelow (disk : Disk) (location : Location) : Disk :=
  { disk with nodes := disk.nodes.restrict fun other => !location.isPrefixOf other }

/-- The last name of a location, if it lies directly in `folder`. -/
def childName? (folder location : Location) : Option Name :=
  match Occurrence.afterFront? folder location with
  | some [name] => some name
  | _ => none

/-- Puts a name in its place among names in the order of their characters. -/
def insertName (name : Name) : List Name → List Name
  | [] => [name]
  | other :: names =>
      if name.text < other.text then name :: other :: names else other :: insertName name names

/-- The names of a folder's entries, in the order of their characters. -/
def listing (disk : Disk) (folder : Location) : List Name :=
  (disk.nodes.keys.filterMap (childName? folder)).foldr insertName []

/-- How deep the deepest location lies. -/
def depth (disk : Disk) : Nat := (disk.nodes.keys.map List.length).foldl max 0

end Disk

end Stencil
