import Stencil.Placeholder
import Stencil.Table

/-!
The values that a pass puts in place of placeholders.
-/

namespace Stencil

/-- A key and its value. -/
structure Assignment where
  key : String
  value : String
  deriving DecidableEq, Repr

namespace Assignment

/-- The name that the key looks up; the whole key if it has none. -/
def baseKey (assignment : Assignment) : String :=
  match Placeholder.baseKeyOf assignment.key with
  | .ok key => key
  | .error _ => assignment.key

/-- The specifiers that the key carries. -/
def specifiers (assignment : Assignment) : List String :=
  match Placeholder.split assignment.key with
  | .ok (_, specifiers) => specifiers
  | .error _ => []

end Assignment

/-- What one pass needs from its caller: assignments, more paths to ignore, and a table of
texts to replace inside values. -/
structure Values where
  assignments : List Assignment := []
  ignorePatterns : List String := []
  replacements : Table String String := .empty
  deriving DecidableEq

namespace Values

def push (values : Values) (key value : String) : Values :=
  { values with assignments := values.assignments ++ [⟨key, value⟩] }

def isEmpty (values : Values) : Bool := values.assignments.isEmpty

/-- The assignments by key, in the order first seen, each with its last value. -/
def effective (values : Values) : Table String String :=
  .ofList (values.assignments.map fun assignment => (assignment.key, assignment.value))

instance : Inhabited Values := ⟨{}⟩

end Values

end Stencil
