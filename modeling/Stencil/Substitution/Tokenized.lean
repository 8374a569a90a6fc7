import Stencil.Span
import Stencil.Substitution.Substituted
import Stencil.Values

/-!
Substitution by parsed placeholders. The body of each span is read as a placeholder, its
base key is looked up, and the transformed value takes the place of the span. Spans are
replaced from the last to the first, so that the offsets of those in front stay valid.
-/

namespace Stencil.Substitution.Tokenized

def placeholder (body : Bytes) : Except Fault Placeholder :=
  match Text.Utf8.decode? body with
  | none => .error .placeholderNotText
  | some text => Placeholder.parse text

/-- Replaces one span, if its placeholder can be read and has a value. -/
def substituteSpan (lookup : Table String String) (span : Span) (done : Substituted) :
    Substituted :=
  match placeholder span.body with
  | .error fault => { done with faults := done.faults ++ [(span.body, fault)] }
  | .ok placeholder =>
      match lookup.get? placeholder.baseKey with
      | none => done
      | some value =>
          { done with
            content := done.content.take span.start ++
              Text.Utf8.encode (placeholder.resolve value) ++ done.content.drop span.stop
            count := done.count + 1 }

/-- Replaces the spans of a content, the last one first. -/
def substitute (opening closing : String) (values : Values) (content : Bytes) : Substituted :=
  (Span.search (Text.Utf8.encode opening) (Text.Utf8.encode closing) content).foldr
    (substituteSpan values.effective) (.unchanged content)

end Stencil.Substitution.Tokenized
