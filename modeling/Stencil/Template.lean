import Stencil.Disk.Files

/-!
Template files: their names end with a suffix, and each is turned into the file whose name
lacks it.
-/

namespace Stencil

/-- A file as it is shown, and where it lies. -/
structure Place where
  path : Path
  address : Address

def Path.place (path : Path) : Place := ⟨path, path.address⟩

namespace Template

/-- What precedes the suffix of a name, if the name ends with it and has more. -/
def stem? (suffix name : String) : Option String :=
  if suffix.utf8ByteSize < name.utf8ByteSize && suffix.toList.isSuffixOf name.toList then
    some (String.ofList (name.toList.take (name.toList.length - suffix.toList.length)))
  else none

/-- Whether a path names a template. -/
def isTemplate (path : Path) (suffix : String) : Bool :=
  (path.fileName?.bind (stem? suffix)).isSome

/-- The path of a template's output, in the same folder. -/
def outputPath? (path : Path) (suffix : String) : Option Path :=
  (path.fileName?.bind (stem? suffix)).map path.withFileName

/-- The place of a template's output, for a template found in its folder under `name`. -/
def output? (template : Place) (name : Name) (suffix : String) : Option Place :=
  match outputPath? template.path suffix, stem? suffix name.text with
  | some path, some stem =>
      some ⟨path, { template.address with steps := [Step.ofPart stem.toList] }⟩
  | _, _ => none

/-- Writes a template's output, then removes the template. A fault comes with the disk as
it was left. -/
def materialize (disk : Disk) (template output : Place) (content : Bytes) :
    Except (Fault × Disk) Disk :=
  match disk.write output.address content with
  | .error cause => .error (.disk output.path cause, disk)
  | .ok written =>
      match written.remove template.address with
      | .error cause =>
          .error (.halfMaterialized template.path output.path cause, written)
      | .ok removed => .ok removed

end Template

end Stencil
