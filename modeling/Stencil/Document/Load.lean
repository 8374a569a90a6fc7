import Stencil.Document.Json
import Stencil.Document.Yaml

/-!
Values documents: their format is known by the extension of the file's name.
-/

namespace Stencil.Document

/-- The format of a values document. -/
inductive Format
  | yaml
  | json
  deriving DecidableEq, Repr

namespace Format

def label : Format → String
  | yaml => "Yaml"
  | json => "Json"

/-- The format that the extension of a path names. -/
def ofPath (path : Path) : Except Fault Format :=
  let extension := Binary.lowerAscii (path.extension?.getD "")
  if extension = "yaml" || extension = "yml" then .ok yaml
  else if extension = "json" then .ok json
  else .error (.unsupportedFormat ("." ++ extension))

end Format

/-- Reads values. A blank document holds none. -/
def parse (format : Format) (text : String) : Except Fault Values :=
  if Text.isBlankText text then .ok {}
  else
    match (match format with
      | .yaml => Yaml.values? text
      | .json => Json.parse text) with
    | some values => .ok values
    | none => .error .malformedValues

/-- Reads values from a file. The record tells what was read once the text is at hand. -/
def load (disk : Disk) (path : Path) : Except Fault Values × List Notice :=
  match Format.ofPath path with
  | .error fault => (.error fault, [])
  | .ok format =>
      match disk.readText path.address with
      | .error cause => (.error (.disk path cause), [])
      | .ok text =>
          (parse format text,
            [.line .debug ("Loading values from " ++ Text.quoted path.text ++ " as " ++
              format.label)])

end Stencil.Document
