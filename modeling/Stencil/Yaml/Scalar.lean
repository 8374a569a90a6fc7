import Stencil.Json.Quoted
import Stencil.Yaml.Cursor

/-!
Reading scalars: plain, in quotes, and in blocks. Inside a plain or quoted scalar a line
end reads as a space, and a line end followed by others as those others.
-/

namespace Stencil.Yaml

/-- Blanks and line ends between two stretches of a scalar. `broken` tells whether a line
ended; blanks after that count for nothing. -/
structure Gap where
  blanks : List Char
  first : List Char
  others : List Char
  broken : Bool

namespace Gap

def none : Gap := ⟨[], [], [], false⟩

/-- The gap of an escaped line end, which reads as nothing. -/
def escaped : Gap := ⟨[], [], [], true⟩

def isNone (gap : Gap) : Bool := gap.blanks.isEmpty && !gap.broken

def blank (gap : Gap) (c : Char) : Gap :=
  if gap.broken then gap else { gap with blanks := gap.blanks ++ [c] }

def lineEnd (gap : Gap) (c : Char) : Gap :=
  if gap.broken then { gap with others := gap.others ++ [c] } else ⟨[], [c], [], true⟩

/-- What a gap reads as. -/
def text (gap : Gap) : List Char :=
  if gap.broken then
    if gap.first = ['\n'] then
      if gap.others.isEmpty then [' '] else gap.others
    else gap.first ++ gap.others
  else gap.blanks

end Gap

/-- A plain scalar as read. `broken` tells whether a line ended after its last character. -/
structure Plain where
  text : List Char
  broken : Bool
  after : Cursor

/-- Whether a character divides flow collections. -/
def isFlowMark (c : Char) : Bool :=
  c == ',' || c == '[' || c == ']' || c == '\x7b' || c == '\x7d'

/-- Reads a plain scalar on from `read`. Lines after the first must not begin left of
`indent`, except in flow collections. -/
def readPlain (inFlow : Bool) (indent : Int) (mark : Mark) (gap : Gap) (read : List Char) :
    List Char → Option Plain
  | [] => some ⟨read, gap.broken, ⟨[], mark⟩⟩
  | '\r' :: '\n' :: rest =>
      readPlain inFlow indent (mark.nextLine 2) (gap.lineEnd '\n') read rest
  | c :: rest =>
      if isBlank c then
        if gap.broken && decide ((mark.column : Int) < indent) && c == '\t' then none
        else readPlain inFlow indent (mark.along 1) (gap.blank c) read rest
      else if isBreak c then
        readPlain inFlow indent (mark.nextLine 1) (gap.lineEnd (breakChar c)) read rest
      else if !gap.isNone && ((!inFlow && decide ((mark.column : Int) < indent)) ||
          atDocumentBound (c :: rest) mark || c == '#') then
        some ⟨read, gap.broken, ⟨c :: rest, mark⟩⟩
      else if inFlow && c == ':' && rest.head?.any fun d => isFlowMark d || d == '?' then none
      else if (c == ':' && atGap rest) || (inFlow && isFlowMark c) then
        some ⟨read, gap.broken, ⟨c :: rest, mark⟩⟩
      else readPlain inFlow indent (mark.along 1) .none (read ++ gap.text ++ [c]) rest
termination_by text => text.length

/-- Reads a scalar in single quotes on from `read`, up to the closing quote. A quote inside
is written twice. -/
def readSingle (mark : Mark) (gap : Gap) (read : List Char) :
    List Char → Option (List Char × Cursor)
  | [] => none
  | '\r' :: '\n' :: rest => readSingle (mark.nextLine 2) (gap.lineEnd '\n') read rest
  | '\'' :: '\'' :: rest =>
      readSingle (mark.along 2) .none (read ++ gap.text ++ ['\'']) rest
  | c :: rest =>
      if isBlank c then readSingle (mark.along 1) (gap.blank c) read rest
      else if isBreak c then
        readSingle (mark.nextLine 1) (gap.lineEnd (breakChar c)) read rest
      else if atDocumentBound (c :: rest) mark then none
      else if c == '\'' then some (read ++ gap.text, ⟨rest, mark.along 1⟩)
      else readSingle (mark.along 1) .none (read ++ gap.text ++ [c]) rest
termination_by text => text.length

/-- The characters that stand for others after a backslash. -/
def escapes : List (Char × Char) :=
  [('0', '\x00'), ('a', '\x07'), ('b', '\x08'), ('t', '\t'), ('\t', '\t'), ('n', '\n'),
    ('v', '\x0B'), ('f', '\x0C'), ('r', '\r'), ('e', '\x1B'), (' ', ' '), ('"', '"'),
    ('/', '/'), ('\\', '\\'), ('N', '\u0085'), ('_', '\u00A0'), ('L', '\u2028'),
    ('P', '\u2029')]

/-- How many digits of a code follow a letter after a backslash. -/
def codeLength? (c : Char) : Option Nat :=
  if c == 'x' then some 2 else if c == 'u' then some 4 else if c == 'U' then some 8 else none

/-- The character of a code, in so many digits at the start of a text. -/
def codeChar? (digits : Nat) (text : List Char) : Option Char :=
  if text.length < digits then none
  else
    match Json.hexValue? (text.take digits) with
    | none => none
    | some code =>
        if (0xD800 ≤ code && code ≤ 0xDFFF) || 0x10FFFF < code then none
        else some (Char.ofNat code)

/-- Reads a scalar in double quotes on from `read`, up to the closing quote. -/
def readDouble (mark : Mark) (gap : Gap) (read : List Char) :
    List Char → Option (List Char × Cursor)
  | [] => none
  | '\r' :: '\n' :: rest => readDouble (mark.nextLine 2) (gap.lineEnd '\n') read rest
  | '\\' :: '\r' :: '\n' :: rest =>
      readDouble ((mark.along 1).nextLine 2) .escaped (read ++ gap.text) rest
  | '\\' :: c :: rest =>
      if isBreak c then
        readDouble ((mark.along 1).nextLine 1) .escaped (read ++ gap.text) rest
      else
        match escapes.lookup c, codeLength? c with
        | some meant, _ =>
            readDouble (mark.along 2) .none (read ++ gap.text ++ [meant]) rest
        | none, some digits =>
            match codeChar? digits rest with
            | none => none
            | some meant =>
                readDouble (mark.along (2 + digits)) .none (read ++ gap.text ++ [meant])
                  (rest.drop digits)
        | none, none => none
  | c :: rest =>
      if isBlank c then readDouble (mark.along 1) (gap.blank c) read rest
      else if isBreak c then
        readDouble (mark.nextLine 1) (gap.lineEnd (breakChar c)) read rest
      else if atDocumentBound (c :: rest) mark then none
      else if c == '"' then some (read ++ gap.text, ⟨rest, mark.along 1⟩)
      else readDouble (mark.along 1) .none (read ++ gap.text ++ [c]) rest
termination_by text => text.length
decreasing_by all_goals simp_wf <;> omega

/-- What becomes of the line ends at the end of a block: all are dropped, one is kept, or
all are kept. -/
inductive Chomping
  | strip
  | clip
  | keep
  deriving DecidableEq

/-- The chomping that a sign asks for. -/
def chomping? (c : Char) : Option Chomping :=
  if c == '+' then some .keep else if c == '-' then some .strip else none

/-- The indentation that a digit asks for. -/
def blockIndent? (c : Char) : Option Nat :=
  if c.isDigit then some (c.toNat - '0'.toNat) else none

/-- Reads the header of a block, in either order a sign and a digit that is not zero. The
indentation is zero if it is not given. -/
def readHeader (cursor : Cursor) : Option (Chomping × Nat × Cursor) :=
  let first := cursor.text.head?
  let second := cursor.text.tail.head?
  let (chomping, indent, count) :=
    match first.bind chomping?, first.bind blockIndent? with
    | some chomping, _ =>
        match second.bind blockIndent? with
        | some indent => (chomping, some indent, 2)
        | none => (chomping, none, 1)
    | none, some indent =>
        match second.bind chomping? with
        | some chomping => (chomping, some indent, 2)
        | none => (.clip, some indent, 1)
    | none, none => (.clip, none, 0)
  if indent = some 0 then none
  else (cursor.skip count).finishLine?.map fun next => (chomping, indent.getD 0, next)

/-- Passes over empty lines of a block, and over the indentation of the first line that is
not empty. Gives the line ends, the greatest column reached and the place. An `indent` of
zero is not known yet. -/
def readEmptyLines (indent : Nat) (widest : Nat) (ends : List Char) (mark : Mark) :
    List Char → Option (List Char × Nat × Cursor)
  | [] => some (ends, max widest mark.column, ⟨[], mark⟩)
  | '\r' :: '\n' :: rest =>
      readEmptyLines indent (max widest mark.column) (ends ++ ['\n']) (mark.nextLine 2) rest
  | c :: rest =>
      if (indent == 0 || decide (mark.column < indent)) && c == ' ' then
        readEmptyLines indent widest ends (mark.along 1) rest
      else if (indent == 0 || decide (mark.column < indent)) && c == '\t' then none
      else if isBreak c then
        readEmptyLines indent (max widest mark.column) (ends ++ [breakChar c])
          (mark.nextLine 1) rest
      else some (ends, max widest mark.column, ⟨c :: rest, mark⟩)
termination_by text => text.length

/-- A block as far as it has been read: its text, the end of its last line, the ends of the
empty lines after that, and whether its last line begins with a blank. -/
structure Block where
  text : List Char
  lineEnd : List Char
  emptyLines : List Char
  blankLine : Bool

/-- Adds a line to a block. In a folded block the end of the line before reads as a space,
or as the empty lines after it, unless one of the two lines begins with a blank. -/
def Block.addLine (block : Block) (folded : Bool) (line : List Char) : Block :=
  let blankLine := line.head?.any isBlank
  let joined :=
    if folded && block.lineEnd.head? == some '\n' && !block.blankLine && !blankLine then
      if block.emptyLines.isEmpty then [' '] else []
    else block.lineEnd
  ⟨block.text ++ joined ++ block.emptyLines ++ line, [], [], blankLine⟩

/-- Reads the lines of a block, each of which begins at column `indent`. -/
def readLines (folded : Bool) (indent : Nat) (block : Block) (cursor : Cursor) :
    Option (Block × Cursor) :=
  if cursor.mark.column == indent && !cursor.text.isEmpty then
    let line := cursor.text.takeWhile fun c => !isBreak c
    let block := block.addLine folded line
    let ended := cursor.skip line.length
    let (lineEnd, next) :=
      match ended.lineEnd? with
      | some (c, next) => ([c], next)
      | none => ([], ended)
    match readEmptyLines indent 0 [] next.mark next.text with
    | none => none
    | some (emptyLines, _, next) =>
        if _shorter : next.text.length < cursor.text.length then
          readLines folded indent { block with lineEnd, emptyLines } next
        else none
  else some (block, cursor)
termination_by cursor.text.length

/-- Reads a block scalar, from behind its first character. `parent` is the column of the
collection around it, or -1. -/
def readBlock (folded : Bool) (parent : Int) (cursor : Cursor) :
    Option (List Char × Cursor) :=
  match readHeader cursor with
  | none => none
  | some (chomping, given, body) =>
      let known := if given = 0 then 0 else (max parent 0).toNat + given
      match readEmptyLines known 0 [] body.mark body.text with
      | none => none
      | some (emptyLines, widest, first) =>
          let indent :=
            if known = 0 then max (max widest (parent + 1).toNat) 1 else known
          match readLines folded indent ⟨[], [], emptyLines, false⟩ first with
          | none => none
          | some (block, after) =>
              let kept :=
                match chomping with
                | .strip => []
                | .clip => block.lineEnd
                | .keep => block.lineEnd ++ block.emptyLines
              some (block.text ++ kept, after)

end Stencil.Yaml
