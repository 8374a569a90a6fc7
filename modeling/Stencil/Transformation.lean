import Stencil.Fault
import Stencil.Text.Case

/-!
Transformations of a value, and the specifiers that name them in a placeholder.
-/

namespace Stencil

/-- What may be done to a value before it is put in place. -/
inductive Transformation
  | upperCase
  | lowerCase
  | substitute (old new : String)
  deriving DecidableEq, Repr

namespace Transformation

/-- Reads `old,new)` up to the last parenthesis; the first comma divides. -/
def arguments? (text : List Char) : Option (List Char × List Char) :=
  (Occurrence.beforeLast? ')' text).bind (Occurrence.cutAt? ',')

/-- Reads a specifier. Names are matched by how the specifier begins. -/
def parse (specifier : String) : Except Fault Transformation :=
  let text := specifier.toList
  if "toUpperCase".toList.isPrefixOf text then .ok upperCase
  else if "toLowerCase".toList.isPrefixOf text || "toDownCase".toList.isPrefixOf text then
    .ok lowerCase
  else
    match Occurrence.afterFront? "gsub(".toList text with
    | none => .error (.unsupportedTransformation specifier)
    | some rest =>
        match arguments? rest with
        | none => .error (.invalidSubstitution specifier)
        | some (old, new) => .ok (substitute (String.ofList old) (String.ofList new))

/-- The specifier that names a transformation. -/
def display : Transformation → String
  | upperCase => "toUpperCase"
  | lowerCase => "toLowerCase"
  | substitute old new => "gsub(" ++ old ++ "," ++ new ++ ")"

/-- Transforms a value. Substitution for an empty text replaces the spaces. -/
def apply : Transformation → String → String
  | upperCase, value => Text.upper value
  | lowerCase, value => Text.lower value
  | substitute old new, value =>
      let old := if old.isEmpty then [' '] else old.toList
      String.ofList (Occurrence.replaceAll old new.toList value.toList)

def applyAll (transformations : List Transformation) (value : String) : String :=
  transformations.foldl (fun value transformation => transformation.apply value) value

/-- Reads and applies each specifier in turn, up to the first that cannot be read. -/
def applySpecifiers (value : String) : List String → Except Fault String
  | [] => .ok value
  | specifier :: specifiers =>
      match parse specifier with
      | .error fault => .error fault
      | .ok transformation => applySpecifiers (transformation.apply value) specifiers

end Transformation

end Stencil
