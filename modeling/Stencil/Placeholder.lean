import Stencil.Text.Blank
import Stencil.Transformation

/-!
The body of a placeholder: a base key, then transformation specifiers after colons.
-/

namespace Stencil

/-- A placeholder whose body has been read. -/
structure Placeholder where
  baseKey : String
  transformations : List Transformation
  deriving DecidableEq, Repr

namespace Placeholder

/-- The name that a body looks up: what precedes its first colon. -/
def baseKeyOf (body : String) : Except Fault String :=
  if Text.isBlankText body then .error .emptyPlaceholder
  else
    match Occurrence.cutAt? ':' body.toList with
    | none => .ok body
    | some ([], _) => .error .emptyPlaceholder
    | some (key, _) => .ok (String.ofList key)

/-- The specifiers of a body: the parts after its first colon. -/
def specifiersOf (body : String) : List String :=
  match Occurrence.cutAt? ':' body.toList with
  | none => []
  | some (_, rest) => (Occurrence.fields ':' rest).map String.ofList

/-- The base key of a body and its specifiers, not yet read. -/
def split (body : String) : Except Fault (String × List String) :=
  (baseKeyOf body).map fun key => (key, specifiersOf body)

def parse (body : String) : Except Fault Placeholder :=
  match split body with
  | .error fault => .error fault
  | .ok (key, specifiers) =>
      (specifiers.mapM Transformation.parse).map fun transformations =>
        ⟨key, transformations⟩

def resolve (placeholder : Placeholder) (value : String) : String :=
  Transformation.applyAll placeholder.transformations value

end Placeholder

end Stencil
