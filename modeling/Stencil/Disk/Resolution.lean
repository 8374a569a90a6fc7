import Stencil.Disk
import Stencil.Fault

/-!
How a written path leads to a location. Each name is looked up in the folder reached so
far. A path that begins with a slash starts at the top of the disk, any other path in the
working folder. A link is followed by taking the steps of its target from the folder that
holds it, or from the top, and at most forty links are followed on the way.
-/

namespace Stencil

/-- One step of a written path. An empty name asks for no more than a folder, and
`nowhere` stands for a path that leads to nothing. `top` and `here` go to the top of the
disk and to its working folder, wherever the steps before have led. -/
inductive Step
  | blank
  | stay
  | up
  | top
  | here
  | enter (name : Name)
  | nowhere
  deriving DecidableEq

/-- The step that one part of a path stands for. -/
def Step.ofPart (part : List Char) : Step :=
  if part = [] then blank
  else if part = ['.'] then stay
  else if part = ['.', '.'] then up
  else
    match Name.ofText? (String.ofList part) with
    | some name => enter name
    | none => nowhere

/-- The steps of the parts of a path. A first part that is empty stands for the top. -/
def Step.ofParts : List (List Char) → List Step
  | [] :: parts => top :: parts.map ofPart
  | parts => parts.map ofPart

/-- The steps of a written path. The empty path leads nowhere. -/
def Path.steps (path : Path) : List Step :=
  if path.text.isEmpty then [.nowhere]
  else Step.ofParts (Occurrence.fields '/' path.text.toList)

/-- Steps to take from a folder, and how many links may be followed on the way. -/
structure Address where
  folder : Location
  steps : List Step
  links : Nat

/-- How many links one path may lead through. -/
def Address.linkLimit : Nat := 40

/-- The address of a written path, seen from the working folder. -/
def Path.address (path : Path) : Address := ⟨[], .here :: path.steps, Address.linkLimit⟩

/-- Where an address leads: to a node, with links left to follow, or to a free place in an
existing folder. `slashed` tells whether slashes followed the free name. -/
inductive Spot
  | taken (location : Location) (node : Node) (links : Nat)
  | free (location : Location) (slashed : Bool)
  deriving DecidableEq

namespace Disk

/-- Takes steps from a folder. A link that ends the path is followed if `through` says so.
`follow` goes on behind a link: from the folder that holds it, with the steps of its target. -/
def findWith (disk : Disk) (through : Bool) (links : Nat)
    (follow : Location → List Step → Except DiskFault Spot) (folder : Location) :
    List Step → Except DiskFault Spot
  | [] => .ok (.taken folder .folder links)
  | .blank :: steps => findWith disk through links follow folder steps
  | .stay :: steps => findWith disk through links follow folder steps
  | .up :: steps => findWith disk through links follow folder.dropLast steps
  | .top :: steps => findWith disk through links follow [] steps
  | .here :: steps => findWith disk through links follow disk.workingFolder steps
  | .nowhere :: _ => .error .missing
  | .enter name :: steps =>
      match disk.get? (folder ++ [name]) with
      | none =>
          if steps.all (· = .blank) then .ok (.free (folder ++ [name]) (!steps.isEmpty))
          else .error .missing
      | some (.file content) =>
          if steps.isEmpty then .ok (.taken (folder ++ [name]) (.file content) links)
          else .error .notFolder
      | some .folder => findWith disk through links follow (folder ++ [name]) steps
      | some (.link target) =>
          if steps.isEmpty && !through then
            .ok (.taken (folder ++ [name]) (.link target) links)
          else follow folder (target.steps ++ steps)

/-- Takes steps from a folder, and follows no more links than `links`. -/
def find (disk : Disk) (through : Bool) :
    Nat → Location → List Step → Except DiskFault Spot
  | 0 => disk.findWith through 0 fun _ _ => .error .tooManyLinks
  | links + 1 => disk.findWith through (links + 1) (find disk through links)

/-- Where an address leads, with a link at its end followed. -/
def follow (disk : Disk) (address : Address) : Except DiskFault Spot :=
  disk.find true address.links address.folder address.steps

/-- Where an address leads, with a link at its end left as it is. -/
def reach (disk : Disk) (address : Address) : Except DiskFault Spot :=
  disk.find false address.links address.folder address.steps

def node (disk : Disk) (address : Address) : Except DiskFault Node :=
  match disk.follow address with
  | .ok (.taken _ node _) => .ok node
  | .ok (.free _ _) => .error .missing
  | .error cause => .error cause

def has (disk : Disk) (address : Address) : Bool := (disk.node address).isOk

def hasFolder (disk : Disk) (address : Address) : Bool :=
  match disk.node address with
  | .ok .folder => true
  | _ => false

end Disk

end Stencil
