import Stencil.Substitution.Substituted
import Stencil.Values

/-!
Substitution by literal keys. Each assignment in turn replaces every occurrence of its
delimited key. Markers inside a key say how its value is changed first.
-/

namespace Stencil.Substitution.Literal

/-- Whether a key carries a marker. -/
def carries (key marker : String) : Bool := Occurrence.occursIn marker.toList key.toList

/-- Replaces a text in a value; an empty text is left alone. -/
def replaceText (value : String) (entry : String × String) : String :=
  if entry.1.isEmpty then value
  else
    String.ofList (Occurrence.replaceAll entry.1.toList entry.2.toList value.toList)

/-- Changes the case of a value as the key asks. Upper case goes first. -/
def conventionalCase (key value : String) : String :=
  if carries key "APPLY_UPPERCASE" then Text.upper value
  else if carries key "APPLY_DOWNCASE" then Text.lower value
  else value

/-- The value as the markers in its key ask for it. The table is run over the whole value,
entry by entry. -/
def conventional (key value : String) (table : Table String String) : String :=
  if carries key "APPLY_REPLACE" then
    table.entries.foldl replaceText (conventionalCase key value)
  else conventionalCase key value

/-- Whether a key already stands between the delimiters. -/
def isWrapped (opening closing key : String) : Bool :=
  (opening.utf8ByteSize + closing.utf8ByteSize ≤ key.utf8ByteSize) &&
    opening.toList.isPrefixOf key.toList && closing.toList.isSuffixOf key.toList

/-- The text searched for: the key between the delimiters. -/
def searchToken (opening closing key : String) : String :=
  if isWrapped opening closing key then key else opening ++ key ++ closing

def substituteKey (opening closing : String) (table : Table String String) (done : Substituted)
    (entry : String × String) : Substituted :=
  let token := Text.Utf8.encode (searchToken opening closing entry.1)
  if token.isEmpty then done
  else
    let offsets := Occurrence.offsets token done.content
    let value := Text.Utf8.encode (conventional entry.1 entry.2 table)
    { done with
      content := Occurrence.splice done.content offsets token.length value
      count := done.count + offsets.length }

/-- Replaces the occurrences of each key in turn. The values' own table of texts to
replace takes precedence over `replacements`. -/
def substitute (opening closing : String) (replacements : Table String String) (values : Values)
    (content : Bytes) : Substituted :=
  values.effective.entries.foldl
    (substituteKey opening closing (replacements.merge values.replacements))
    (.unchanged content)

end Stencil.Substitution.Literal
