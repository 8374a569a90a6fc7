import Stencil.Diff.Shift
import Stencil.Text.Lines

/-!
Showing the difference of two texts line by line: hunks of changed lines with three lines
of context around them, in colour.
-/

namespace Stencil.Diff

variable {α : Type} [DecidableEq α]

/-- A stretch of two lists: the same in both, or items that others take the place of. -/
inductive Change (α : Type)
  | same (items : List α)
  | change (removed added : List α)

/-- The changes of a script. Blocks that go or come between the same shared blocks are one
change. -/
def Script.changes : Script α → List (Change α)
  | [] => []
  | .keep items :: script =>
      match changes script with
      | .same more :: rest => .same (items ++ more) :: rest
      | rest => .same items :: rest
  | .delete items :: script =>
      match changes script with
      | .change removed added :: rest => .change (items ++ removed) added :: rest
      | rest => .change items [] :: rest
  | .insert items :: script =>
      match changes script with
      | .change removed added :: rest => .change removed (items ++ added) :: rest
      | rest => .change [] items :: rest

/-- A hunk: changes that are shown together. -/
abbrev Hunk (α : Type) := List (Change α)

/-- How many lines of context are shown. -/
def context : Nat := 3

def lastItems (count : Nat) (items : List α) : List α := items.drop (items.length - count)

/-- Cuts shared items at the start down to the context before what follows. -/
def trimFront : List (Change α) → List (Change α)
  | .same items :: rest => .same (lastItems context items) :: rest
  | changes => changes

/-- Cuts shared items at the end down to the context after what precedes. -/
def trimBack : List (Change α) → List (Change α)
  | [] => []
  | [.same items] => [.same (items.take context)]
  | change :: changes => change :: trimBack changes

/-- Divides changes into hunks where more than twice the context is the same. -/
def divide (pending : Hunk α) : List (Change α) → List (Hunk α)
  | [] =>
      match pending with
      | [] | [.same _] => []
      | _ => [pending]
  | .same items :: changes =>
      if 2 * context < items.length then
        (pending ++ [.same (items.take context)]) ::
          divide [.same (lastItems context items)] changes
      else divide (pending ++ [.same items]) changes
  | change :: changes => divide (pending ++ [change]) changes

def Script.hunks (script : Script α) : List (Hunk α) :=
  divide [] (trimBack (trimFront script.changes))

/-- What became of a line. -/
inductive Sign
  | kept
  | removed
  | added
  deriving DecidableEq

/-- The lines of a change, with what became of them. -/
def Change.lines : Change α → List (Sign × α)
  | same items => items.map fun item => (Sign.kept, item)
  | change removed added =>
      removed.map (fun item => (Sign.removed, item)) ++
        added.map fun item => (Sign.added, item)

def Hunk.lines (hunk : Hunk α) : List (Sign × α) := hunk.flatMap Change.lines

/-- The colour that a sign begins, and its mark. -/
def Sign.opening : Sign → String
  | kept => "\x1b[0m  "
  | removed => "\x1b[31m- "
  | added => "\x1b[32m+ "

/-- A line as it is shown. A line without an end is given one. -/
def renderLine (line : Sign × List Char) : List Char :=
  line.1.opening.toList ++ line.2 ++ "\x1b[0m".toList ++
    (if Text.hasLineEnd line.2 then [] else ['\n'])

def separator : List Char := List.replicate 40 '-' ++ ['\n']

def scriptOfTexts (old new : String) : Script (List Char) :=
  (Script.between (Text.lines old.toList) (Text.lines new.toList)).shift

/-- The difference of two texts as it is shown, if there is any. -/
def render (old new : String) : Option String :=
  let hunks := (scriptOfTexts old new).hunks
  if hunks.any fun hunk => (Hunk.lines hunk).any fun line => line.1 != .kept then
    some (String.ofList (separator.intercalate
      (hunks.map fun hunk => (Hunk.lines hunk).flatMap renderLine)))
  else none

end Stencil.Diff
