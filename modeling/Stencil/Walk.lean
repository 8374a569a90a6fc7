import Stencil.Binary
import Stencil.Event
import Stencil.Filter
import Stencil.Template

/-!
Going over a folder: first its files in the order of their names, then its folders in the
same order, each in the same way. Links to files are read through; links to folders are
never entered. Each file that passes the filter is handed to a visitor, which may change
the disk, and which may end the walk.
-/

namespace Stencil.Walk

/-- Which files a walk visits. With a suffix, only those whose names end with it. -/
structure Plan where
  filter : Filter
  suffix? : Option String

/-- What a walk does with one entry of a folder. -/
inductive Verdict
  | dangling
  | linkedFolder
  | ignoredFolder
  | skippedFolder
  | folder
  | unsuffixed
  | ignoredFile
  | tooLarge (size limit : Nat)
  | binary
  | visit (content : Bytes)
  deriving DecidableEq

def Plan.judgeFolder (plan : Plan) (relative : Path) : Verdict :=
  match plan.filter.check relative true 0 with
  | .eligible => .folder
  | .ignored => .ignoredFolder
  | _ => .skippedFolder

/-- The verdict on a file, its content at hand. -/
def Plan.judgeFile (plan : Plan) (path relative : Path) (content : Bytes) : Verdict :=
  if plan.suffix?.any fun suffix => !Template.isTemplate path suffix then .unsuffixed
  else
    match plan.filter.check relative false content.length with
    | .tooLarge size limit => .tooLarge size limit
    | .eligible => if Binary.isFile path content then .binary else .visit content
    | _ => .ignoredFile

/-- The verdict on the entry `name` of the folder at `folder`. -/
def Plan.judge (plan : Plan) (disk : Disk) (folder : Location) (links : Nat) (name : Name)
    (path relative : Path) : Verdict :=
  match disk.get? (folder ++ [name]) with
  | some .folder => plan.judgeFolder relative
  | some (.file content) => plan.judgeFile path relative content
  | some (.link _) =>
      match disk.node ⟨folder, [.enter name], links⟩ with
      | .ok .folder => .linkedFolder
      | .ok (.file content) => plan.judgeFile path relative content
      | _ => .dangling
  | none => .dangling

/-- A file that passed the filter. -/
structure Visited where
  place : Place
  name : Name
  relative : Path
  content : Bytes

/-- How far a walk has come: the disk as it is now, what was recorded, how many files were
visited and how many passed over, and what the visitor has gathered. -/
structure Progress (β : Type) where
  disk : Disk
  notices : List Notice
  visited : Nat
  skipped : Nat
  gathered : β

namespace Progress

variable {β : Type}

def report (progress : Progress β) (event : Event) : Progress β :=
  { progress with notices := progress.notices ++ [.report event] }

def say (progress : Progress β) (level : Level) (text : String) : Progress β :=
  { progress with notices := progress.notices ++ [.line level text] }

/-- Records that a file was passed over, and why. -/
def skip (progress : Progress β) (event : Event) : Progress β :=
  { progress.report event with skipped := progress.skipped + 1 }

end Progress

/-- A walk that was ended gives the fault and how far it had come. -/
abbrev Run (β : Type) := Except (Fault × Progress β)

/-- How far a walk came. -/
abbrev Result (β : Type) := Run β (Progress β)

variable {β : Type}

/-- Carries out the verdict on an entry. Nothing is done yet about a folder to be entered. -/
def settle (visit : Visited → Progress β → Result β) (path relative : Path)
    (folder : Location) (links : Nat) (name : Name) (progress : Progress β) :
    Verdict → Result β
  | .dangling =>
      .ok (progress.say .debug ("Skipping dangling symlink: " ++ Text.quoted path.text))
  | .linkedFolder | .ignoredFolder => .ok (progress.report (.ignored path))
  | .skippedFolder =>
      .ok (progress.say .debug ("Skipping directory: " ++ Text.quoted path.text))
  | .folder | .unsuffixed => .ok progress
  | .ignoredFile => .ok (progress.skip (.ignored path))
  | .tooLarge size limit => .ok (progress.skip (.sizeExceeded path size limit))
  | .binary => .ok (progress.skip (.binarySkipped path))
  | .visit content =>
      visit ⟨⟨path, folder, [.enter name], links⟩, name, relative, content⟩
        { progress with visited := progress.visited + 1 }

/-- Deals with one entry. Folders to be entered are gathered behind `progress`. -/
def entry (plan : Plan) (visit : Visited → Progress β → Result β) (path relative : Path)
    (folder : Location) (links : Nat) (state : Progress β × List Name) (name : Name) :
    Run β (Progress β × List Name) :=
  let (progress, folders) := state
  let path := path.join name.text
  let relative := relative.join name.text
  let verdict := plan.judge progress.disk folder links name path relative
  (settle visit path relative folder links name progress verdict).map fun progress =>
    (progress, if verdict = .folder then folders ++ [name] else folders)

/-- Records that a folder is gone over. -/
def announce (path : Path) (progress : Progress β) : Progress β :=
  progress.say .debug ("Processing directory: " ++ Text.quoted path.text)

/-- Goes over the folder at `folder`, shown as `path`. `height` bounds how many levels of
folders can lie below. -/
def level (plan : Plan) (visit : Visited → Progress β → Result β) (links : Nat) :
    Nat → Path → Path → Location → Progress β → Result β
  | 0, _, _, _, progress => .ok progress
  | height + 1, path, relative, folder, progress =>
      let progress := announce path progress
      match (progress.disk.listing folder).foldlM (m := Run β)
          (entry plan visit path relative folder links) (progress, []) with
      | .error stopped => .error stopped
      | .ok (progress, folders) =>
          folders.foldlM (m := Run β)
            (fun progress name =>
              level plan visit links height (path.join name.text) (relative.join name.text)
                (folder ++ [name]) progress)
            progress

/-- The line that ends the record of a walk. -/
def completed (root : Path) (progress : Progress β) : Progress β :=
  progress.say .debug
    ("Walk of " ++ Text.quoted root.text ++ " complete: " ++ toString progress.visited ++
      " files visited, " ++ toString progress.skipped ++ " skipped")

/-- Goes over the folder that a path leads to. -/
def run (plan : Plan) (root : Path) (visit : Visited → Progress β → Result β)
    (progress : Progress β) : Result β :=
  match progress.disk.enter root.address with
  | .error cause =>
      .error (.disk root cause, announce root progress)
  | .ok (folder, links) =>
      (level plan visit links (progress.disk.depth + 1) root ⟨""⟩ folder progress).map
        (completed root)

end Stencil.Walk
