/-!
The lines of a text. A line ends with a line feed, with a carriage return, or with both in
that order, and its end belongs to it. Text after the last end is a line too.
-/

namespace Stencil.Text

/-- Puts a character in front of the first line. -/
def prependToLines (c : Char) : List (List Char) → List (List Char)
  | [] => [[c]]
  | line :: lines => (c :: line) :: lines

/-- The lines of a text, each with its end. -/
def lines : List Char → List (List Char)
  | [] => []
  | '\r' :: '\n' :: rest => ['\r', '\n'] :: lines rest
  | c :: rest =>
      if c = '\n' || c = '\r' then [c] :: lines rest else prependToLines c (lines rest)

/-- Whether a line ends, rather than stop where the text does. -/
def hasLineEnd (line : List Char) : Bool :=
  match line.getLast? with
  | some c => c == '\n' || c == '\r'
  | none => false

end Stencil.Text
