/-!
Reading YAML text: the classes of characters, and a place in a text with its line and
column. Lines end at any of five characters; a carriage return and a line feed are one end.
-/

namespace Stencil.Yaml

/-- Whether a character may occur in a document. -/
def isAllowed (c : Char) : Bool :=
  let n := c.toNat
  n == 0x9 || n == 0xA || n == 0xD || (0x20 ≤ n && n ≤ 0x7E) || n == 0x85 ||
    (0xA0 ≤ n && n ≤ 0xD7FF) || (0xE000 ≤ n && n ≤ 0xFFFD) || 0x10000 ≤ n

def isBreak (c : Char) : Bool :=
  c == '\n' || c == '\r' || c == '\u0085' || c == '\u2028' || c == '\u2029'

/-- Whether a character is a space or a tab. -/
def isBlank (c : Char) : Bool := c == ' ' || c == '\t'

/-- Whether a character may occur in the name of an anchor, a directive or a tag handle. -/
def isWord (c : Char) : Bool := c.isAlphanum || c == '_' || c == '-'

/-- The character that a line end reads as: a line feed, or one of the two separators. -/
def breakChar (c : Char) : Char := if c == '\u2028' || c == '\u2029' then c else '\n'

/-- Whether a text is at its end, at the end of a line, or at a blank. -/
def atGap : List Char → Bool
  | [] => true
  | c :: _ => isBlank c || isBreak c

/-- Whether a text is at its end or at the end of a line. -/
def atLineEnd : List Char → Bool
  | [] => true
  | c :: _ => isBreak c

/-- A position: how many characters and how many lines precede it, and its column. -/
structure Mark where
  index : Nat
  line : Nat
  column : Nat

/-- The position some characters further on the same line. -/
def Mark.along (mark : Mark) (count : Nat) : Mark :=
  { mark with index := mark.index + count, column := mark.column + count }

/-- The start of the next line, after an end of so many characters. -/
def Mark.nextLine (mark : Mark) (count : Nat) : Mark := ⟨mark.index + count, mark.line + 1, 0⟩

/-- What is left of a text, and where that begins. -/
structure Cursor where
  text : List Char
  mark : Mark

namespace Cursor

def start (text : List Char) : Cursor := ⟨text, ⟨0, 0, 0⟩⟩

/-- Passes over characters of the line. -/
def skip (cursor : Cursor) (count : Nat) : Cursor :=
  ⟨cursor.text.drop count, cursor.mark.along count⟩

/-- Passes over the characters of the line that `p` holds of. -/
def skipWhile (cursor : Cursor) (p : Char → Bool) : Cursor :=
  cursor.skip (cursor.text.takeWhile p).length

/-- The line end that the text begins with, and the start of the next line. -/
def lineEnd? (cursor : Cursor) : Option (Char × Cursor) :=
  match cursor.text with
  | '\r' :: '\n' :: rest => some ('\n', ⟨rest, cursor.mark.nextLine 2⟩)
  | c :: rest => if isBreak c then some (breakChar c, ⟨rest, cursor.mark.nextLine 1⟩) else none
  | [] => none

/-- Passes over a comment, up to the end of the line. -/
def skipComment (cursor : Cursor) : Cursor :=
  match cursor.text with
  | '#' :: _ => cursor.skipWhile fun c => !isBreak c
  | _ => cursor

/-- Passes over blanks and a comment, which must end the line, and over the line end. -/
def finishLine? (cursor : Cursor) : Option Cursor :=
  let ended := (cursor.skipWhile isBlank).skipComment
  if atLineEnd ended.text then
    match ended.lineEnd? with
    | some (_, next) => some next
    | none => some ended
  else none

end Cursor

/-- Whether a line begins with `---` or `...` and a gap, which bounds documents. -/
def atDocumentBound (text : List Char) (mark : Mark) : Bool :=
  mark.column == 0 &&
    (['-', '-', '-'].isPrefixOf text || ['.', '.', '.'].isPrefixOf text) &&
    atGap (text.drop 3)

end Stencil.Yaml
