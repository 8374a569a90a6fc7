import Stencil.Fault
import Stencil.Text.Utf8

/-!
The result of substituting values in one content.
-/

namespace Stencil.Substitution

/-- A new content, how many places in it were given a value, and the bodies that could not
be read, in the order in which they were met. -/
structure Substituted where
  content : Bytes
  count : Nat
  faults : List (Bytes × Fault)
  deriving DecidableEq

def Substituted.unchanged (content : Bytes) : Substituted := ⟨content, 0, []⟩

/-- Whether any place was given a value. -/
def Substituted.isChanged (result : Substituted) : Bool := 0 < result.count

end Stencil.Substitution
