import Stencil.Census
import Stencil.Event
import Stencil.Placeholder
import Stencil.Span

/-!
Counting the placeholders of a content by base key.
-/

namespace Stencil.Survey

/-- The base key of a span's body. -/
def keyOfBody (body : Bytes) : Except Fault String :=
  match Text.Utf8.decode? body with
  | none => .error .placeholderNotText
  | some text => Placeholder.baseKeyOf text

/-- How a body without a usable key is reported. -/
def tokenError (path : Path) (body : Bytes) (fault : Fault) : Event :=
  .tokenError path (Text.Utf8.decodeLossy body) fault.message

/-- The keys of a content's spans, with a fault in place of each that has none. -/
def keys (opening closing : String) (content : Bytes) : List (Bytes × Except Fault String) :=
  (Span.scan (Text.Utf8.encode opening) (Text.Utf8.encode closing) content).map fun span =>
    (span.body, keyOfBody span.body)

/-- The usable keys of a content, in order. -/
def usable (found : List (Bytes × Except Fault String)) : List String :=
  found.filterMap fun (_, key) => key.toOption

/-- The reports on the bodies that have no key, in order. -/
def reports (path : Path) (found : List (Bytes × Except Fault String)) : List Event :=
  found.filterMap fun (body, key) =>
    match key with
    | .ok _ => none
    | .error fault => some (tokenError path body fault)

end Stencil.Survey
