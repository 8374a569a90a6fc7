import Stencil.Path
import Stencil.Text.Quoted

/-!
The causes for which an operation stops, and how each is worded.
-/

namespace Stencil

/-- Why the disk refuses an operation. -/
inductive DiskFault
  | missing
  | notFolder
  | isFolder
  | tooManyLinks
  | notText
  | occupied
  deriving DecidableEq, Repr

def DiskFault.message : DiskFault → String
  | missing => "No such file or directory (os error 2)"
  | notFolder => "Not a directory (os error 20)"
  | isFolder => "Is a directory (os error 21)"
  | tooManyLinks => "Too many levels of symbolic links (os error 40)"
  | notText => "stream did not contain valid UTF-8"
  | occupied => "File exists (os error 17)"

/-- Which part of a configuration may not be empty. -/
inductive EmptyPart
  | delimiter
  | suffix
  deriving DecidableEq, Repr

/-- Why an operation of the library fails. -/
inductive Fault
  | invalidSize (text : String)
  | invalidDelimiters (part : EmptyPart)
  | emptyPlaceholder
  | placeholderNotText
  | unsupportedTransformation (specifier : String)
  | invalidSubstitution (specifier : String)
  | disk (path : Path) (cause : DiskFault)
  | halfMaterialized (template output : Path) (cause : DiskFault)
  | unsupportedFormat (extension : String)
  | malformedValues
  deriving DecidableEq, Repr

namespace Fault

def message : Fault → String
  | invalidSize text =>
      "invalid size format: '" ++ text ++ "' (expected e.g. '3 mb', '50kb', '1 GB')"
  | invalidDelimiters .delimiter =>
      "invalid delimiters: start and end delimiters must not be empty"
  | invalidDelimiters .suffix => "invalid delimiters: template suffix must not be empty"
  | emptyPlaceholder => "empty placeholder"
  | placeholderNotText => "placeholder is not valid UTF-8"
  | unsupportedTransformation specifier =>
      "unsupported transformation function: " ++ specifier
  | invalidSubstitution specifier =>
      "invalid gsub arguments: " ++ specifier ++ ". Expected gsub(old,new)"
  | disk path cause => "I/O error on " ++ Text.quoted path.text ++ ": " ++ cause.message
  | halfMaterialized template output cause =>
      "template " ++ Text.quoted template.text ++ " was written to " ++
        Text.quoted output.text ++ " but could not be removed: " ++ cause.message
  | unsupportedFormat extension => "unsupported values file format: " ++ extension
  | malformedValues => "values file error"

/-- Whether the fault concerns one placeholder only, so that a pass goes on after it. -/
def isLocal : Fault → Bool
  | emptyPlaceholder | placeholderNotText => true
  | unsupportedTransformation _ | invalidSubstitution _ => true
  | _ => false

end Fault

end Stencil
