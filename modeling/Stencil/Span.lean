import Stencil.Occurrence
import Stencil.Text.Utf8

/-!
Spans of a content: an opening delimiter, a body, and a closing delimiter. There are two
ways to find them. A scan takes each opening with the next closing, wherever that stands.
A search keeps to lines: a span whose body would hold the end of a line is no span, and
the search goes on behind its first byte.
-/

namespace Stencil

/-- A stretch of a content, from the start of its opening to the end of its closing. -/
structure Span where
  start : Nat
  body : Bytes
  stop : Nat
  deriving DecidableEq, Repr

namespace Span

/-- Scans a content of which the first byte has the given offset. An opening without a
closing after it ends the scan. -/
def scanFrom (opening closing : Bytes) (offset : Nat) (content : Bytes) : List Span :=
  match Occurrence.cut? opening content with
  | none => []
  | some (gap, rest) =>
      match Occurrence.cut? closing rest with
      | none => []
      | some (body, after) =>
          let start := offset + gap.length
          let stop := start + opening.length + body.length + closing.length
          if _shorter : after.length < content.length then
            ⟨start, body, stop⟩ :: scanFrom opening closing stop after
          else []
termination_by content.length

/-- The spans of a content by a scan. An empty delimiter bounds no span. -/
def scan (opening closing content : Bytes) : List Span :=
  if opening.isEmpty || closing.isEmpty then [] else scanFrom opening closing 0 content

def newline : UInt8 := 10

/-- What precedes the first closing delimiter on the line, and what follows it. -/
def closeOnLine? (closing : Bytes) : Bytes → Option (Bytes × Bytes)
  | [] => if closing.isEmpty then some ([], []) else none
  | b :: rest =>
      match Occurrence.afterFront? closing (b :: rest) with
      | some after => some ([], after)
      | none =>
          if b = newline then none
          else (closeOnLine? closing rest).map fun (body, after) => (b :: body, after)

/-- The body of a span that begins here and ends on the same line, and what follows it. -/
def here? (opening closing content : Bytes) : Option (Bytes × Bytes) :=
  (Occurrence.afterFront? opening content).bind (closeOnLine? closing)

/-- Searches a content of which the first byte has the given offset. After an empty span
the search goes on one byte later. -/
def searchFrom (opening closing : Bytes) (offset : Nat) (content : Bytes) : List Span :=
  match here? opening closing content with
  | some (body, after) =>
      let stop := offset + opening.length + body.length + closing.length
      if _shorter : after.length < content.length then
        ⟨offset, body, stop⟩ :: searchFrom opening closing stop after
      else
        match content with
        | [] => [⟨offset, body, stop⟩]
        | _ :: rest => ⟨offset, body, stop⟩ :: searchFrom opening closing (offset + 1) rest
  | none =>
      match content with
      | [] => []
      | _ :: rest => searchFrom opening closing (offset + 1) rest
termination_by content.length

/-- The spans of a content by a search that keeps to lines. -/
def search (opening closing content : Bytes) : List Span :=
  searchFrom opening closing 0 content

end Span

end Stencil
