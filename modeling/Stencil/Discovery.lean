import Stencil.Census
import Stencil.Values

/-!
What a count of placeholders means for a run: which of the given values are used, and the
table that shows it.
-/

namespace Stencil.Discovery

/-- The given value of a key, if it is not empty. -/
def value? (values : Values) (key : String) : Option String :=
  (values.effective.get? key).filter fun value => !value.isEmpty

/-- A text with spaces behind it, up to a width in characters. -/
def padRight (width : Nat) (text : String) : String :=
  text ++ String.ofList (List.replicate (width - text.length) ' ')

/-- A line of the table: a key, how often it occurs, and its value. -/
def tableLine (values : Values) (key : String) (count : Nat) : String :=
  "  " ++ padRight 24 key ++ "  matches=" ++ padRight 6 (toString count) ++ "  value=" ++
    (value? values key).getD "(unset)"

def table (census : Census) (values : Values) : List String :=
  census.counts.map fun (key, count) => tableLine values key count

/-- The values for the passes: those of keys that were counted, or all that were given if
nothing was counted. -/
def valuesFor (census : Census) (given : Values) : Values :=
  if census.isEmpty then given
  else
    { given with
      assignments := census.keys.filterMap fun key =>
        (value? given key).map fun value => ⟨key, value⟩ }

end Stencil.Discovery
