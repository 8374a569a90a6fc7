import Stencil.Disk.Resolution

/-!
What may be done to a disk by address: reading and writing files, removing nodes, making
folders and links.
-/

namespace Stencil.Disk

def read (disk : Disk) (address : Address) : Except DiskFault Bytes :=
  match disk.node address with
  | .ok (.file content) => .ok content
  | .ok _ => .error .isFolder
  | .error cause => .error cause

/-- The content of a file that holds text. -/
def readText (disk : Disk) (address : Address) : Except DiskFault String :=
  match disk.read address with
  | .error cause => .error cause
  | .ok content =>
      match Text.Utf8.decode? content with
      | some text => .ok text
      | none => .error .notText

/-- Gives a file new content, or makes it. A write through a link changes its target. -/
def write (disk : Disk) (address : Address) (content : Bytes) : Except DiskFault Disk :=
  match disk.follow address with
  | .ok (.taken location (.file _) _) => .ok (disk.put location (.file content))
  | .ok (.taken _ _ _) => .error .isFolder
  | .ok (.free location false) => .ok (disk.put location (.file content))
  | .ok (.free _ true) => .error .isFolder
  | .error cause => .error cause

/-- Removes a file or a link, never a folder. -/
def remove (disk : Disk) (address : Address) : Except DiskFault Disk :=
  match disk.reach address with
  | .ok (.taken _ .folder _) => .error .isFolder
  | .ok (.taken location _ _) => .ok (disk.erase location)
  | .ok (.free _ _) => .error .missing
  | .error cause => .error cause

/-- Removes a folder with all it holds. A link is removed, and not what it leads to. -/
def removeFolder (disk : Disk) (address : Address) : Except DiskFault Disk :=
  match disk.reach address with
  | .ok (.taken location .folder _) => .ok (disk.eraseBelow location)
  | .ok (.taken location (.link _) _) => .ok (disk.erase location)
  | .ok (.taken _ (.file _) _) => .error .notFolder
  | .ok (.free _ _) => .error .missing
  | .error cause => .error cause

/-- The location of a folder, and the links that may be followed from it on. -/
def enter (disk : Disk) (address : Address) : Except DiskFault (Location × Nat) :=
  match disk.follow address with
  | .ok (.taken location .folder links) => .ok (location, links)
  | .ok (.taken _ _ _) => .error .notFolder
  | .ok (.free _ _) => .error .missing
  | .error cause => .error cause

/-- Makes each folder that is missing along the steps. What was made before a step fails
stays on the disk. -/
def makeFoldersFrom (disk : Disk) (links : Nat) (folder : Location) :
    List Step → Disk × Option DiskFault
  | [] => (disk, none)
  | .blank :: steps => makeFoldersFrom disk links folder steps
  | .stay :: steps => makeFoldersFrom disk links folder steps
  | .up :: steps => makeFoldersFrom disk links folder.dropLast steps
  | .top :: steps => makeFoldersFrom disk links [] steps
  | .here :: steps => makeFoldersFrom disk links disk.workingFolder steps
  | .nowhere :: _ => (disk, some .missing)
  | .enter name :: steps =>
      match disk.find true links folder [.enter name] with
      | .ok (.taken location .folder links) => makeFoldersFrom disk links location steps
      | .ok (.taken _ _ _) => (disk, some .occupied)
      | .ok (.free location _) =>
          if location = folder ++ [name] then
            makeFoldersFrom (disk.put location .folder) links location steps
          else (disk, some .occupied)
      | .error cause => (disk, some cause)

/-- Makes a folder and those above it. The empty path asks for none. -/
def makeFolders (disk : Disk) (path : Path) : Disk × Option DiskFault :=
  if path.text.isEmpty then (disk, none)
  else disk.makeFoldersFrom Address.linkLimit disk.workingFolder path.steps

/-- A disk with a folder to work in, and no more than the folders above it. -/
def workingIn (path : Path) : Disk :=
  let disk := (empty.makeFolders path).1
  match disk.enter path.address with
  | .ok (folder, _) => { disk with workingFolder := folder }
  | .error _ => disk

def makeLink (disk : Disk) (address : Address) (target : Path) : Except DiskFault Disk :=
  match disk.reach address with
  | .ok (.free location _) => .ok (disk.put location (.link target))
  | .ok (.taken _ _ _) => .error .occupied
  | .error cause => .error cause

end Stencil.Disk
