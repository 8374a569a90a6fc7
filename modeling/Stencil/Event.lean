import Stencil.Path

/-!
What a pass reports while it goes over a folder, and how each report reads.
-/

namespace Stencil

/-- Something that a pass reports. A `preview` stands for a write that a dry run leaves out. -/
inductive Event
  | sizeExceeded (path : Path) (size limit : Nat)
  | binarySkipped (path : Path)
  | ignored (path : Path)
  | tokenError (path : Path) (token reason : String)
  | replaced (path : Path) (count : Nat)
  | materialized (template output : Path) (count : Nat)
  | preview (path : Path) (before after : String)
  deriving DecidableEq, Repr

def Event.message : Event → String
  | sizeExceeded path size limit =>
      "Skipping file " ++ path.label ++ " because its size (" ++ toString size ++
        ") exceeds the limit (" ++ toString limit ++ ")"
  | binarySkipped path => "Skipping binary file: " ++ path.text
  | ignored path => "Ignoring path: " ++ path.text
  | tokenError path token reason =>
      "Error in placeholder '" ++ token ++ "' (" ++ path.text ++ "): " ++ reason
  | replaced path count =>
      "Replaced " ++ toString count ++ " instances in " ++ path.label
  | materialized template output count =>
      "Processed template " ++ template.label ++ " -> " ++ output.label ++ " (" ++
        toString count ++ " replacements)"
  | preview path _ _ => "Would update contents of: " ++ path.text

/-- How much a line of the log matters. -/
inductive Level
  | debug
  | info
  | warn
  deriving DecidableEq, Repr

/-- One entry of a pass's record: a report, or a line for the log. -/
inductive Notice
  | report (event : Event)
  | line (level : Level) (text : String)
  deriving DecidableEq, Repr

def Notice.event? : Notice → Option Event
  | report event => some event
  | line _ _ => none

/-- The reports of a record, in their order. -/
def Notice.events (notices : List Notice) : List Event := notices.filterMap Notice.event?

end Stencil
