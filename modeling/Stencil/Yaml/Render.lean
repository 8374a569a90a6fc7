import Stencil.Yaml.Cursor
import Stencil.Yaml.Numeral

/-!
Writing YAML in block form. A scalar is written plain where it would be read as the same
text, else in single quotes, in a literal block if it has several lines, and in double
quotes if nothing else can hold it.
-/

namespace Stencil.Yaml.Render

/-- How a scalar is written. -/
inductive Style
  | plain
  | single
  | double
  | literal
  deriving DecidableEq

/-- Whether a character is written as it is. Tabs and some line ends are not. -/
def isPrintable (c : Char) : Bool :=
  let n := c.toNat
  n == 0xA || (0x20 ≤ n && n ≤ 0x7E) || (0xA0 ≤ n && n ≤ 0xD7FF) ||
    (0xE000 ≤ n && n ≤ 0xFFFD && n != 0xFEFF)

/-- Plain scalars that stand for the null value or for truth values. -/
def reserved : List String :=
  ["", "~", "null", "Null", "NULL", "true", "True", "TRUE", "false", "False", "FALSE"]

/-- Whether a plain scalar could be read as more than a text. -/
def isAmbiguous (text : List Char) : Bool :=
  reserved.contains (String.ofList text) || Numeral.isNumeral text

/-- Whether two characters that `p` and `q` hold of stand side by side. -/
def hasAdjacent (p q : Char → Bool) : List Char → Bool
  | a :: b :: rest => (p a && q b) || hasAdjacent p q (b :: rest)
  | _ => false

/-- Whether a character is a space or ends a line. -/
def isEdge (c : Char) : Bool := c == ' ' || isBreak c

/-- Whether a character is a gap inside a text. -/
def isGap (c : Char) : Bool := isBlank c || isBreak c || c == '\x00'

/-- Characters that have a meaning at the start of a scalar. -/
def isIndicator (c : Char) : Bool := "#,[]\x7b\x7d&*!|>'\"%@\x60".toList.contains c

/-- Whether the characters of a text would be read as signs of structure. -/
def hasIndicators (text : List Char) : Bool :=
  ['-', '-', '-'].isPrefixOf text || ['.', '.', '.'].isPrefixOf text ||
    text.head?.any isIndicator ||
    (text.head?.any (fun c => c == '?' || c == '-') && text.tail.head?.all isGap) ||
    text.getLast? == some ':' || hasAdjacent (· == ':') isGap text ||
    hasAdjacent isGap (· == '#') text

def allowsPlain (text : List Char) : Bool :=
  !(text.any isBreak || text.any (!isPrintable ·) || text.head?.any isEdge ||
    text.getLast?.any isEdge || hasIndicators text)

/-- Whether a text can be written in single quotes. -/
def allowsSingle (text : List Char) : Bool :=
  !(text.any (!isPrintable ·) || hasAdjacent isBreak (· == ' ') text ||
    hasAdjacent (· == ' ') isBreak text)

/-- Whether a text can be written in a block. -/
def allowsBlock (text : List Char) : Bool :=
  !(text.any (!isPrintable ·) || text.getLast? == some ' ' ||
    hasAdjacent (· == ' ') isBreak text)

def style (text : List Char) : Style :=
  if text.contains '\n' then if allowsBlock text then .literal else .double
  else if !isAmbiguous text && allowsPlain text then .plain
  else if allowsSingle text then .single
  else .double

def spaces (count : Nat) : List Char := List.replicate count ' '

/-- The characters of a text with each new line begun at column `indent`. `fresh` tells
whether a line was just ended. -/
def indentLines (indent : Nat) (write : Char → List Char) (fresh : Bool) :
    List Char → List Char
  | [] => []
  | c :: rest =>
      if isBreak c then c :: indentLines indent write true rest
      else (if fresh then spaces indent else []) ++ write c ++
        indentLines indent write false rest

def single (indent : Nat) (text : List Char) : List Char :=
  '\'' :: indentLines indent (fun c => if c == '\'' then ['\'', '\''] else [c]) false text ++
    (if text.getLast?.any isBreak then spaces indent else []) ++ ['\'']

def hexCode (width code : Nat) : List Char :=
  let digits := (Nat.toDigits 16 code).map Char.toUpper
  List.replicate (width - digits.length) '0' ++ digits

/-- Characters that are written as a letter after a backslash. -/
def letterEscapes : List (Char × Char) :=
  [('\x00', '0'), ('\x07', 'a'), ('\x08', 'b'), ('\t', 't'), ('\n', 'n'), ('\x0B', 'v'),
    ('\x0C', 'f'), ('\r', 'r'), ('\x1B', 'e'), ('"', '"'), ('\\', '\\'), ('\u0085', 'N'),
    ('\u2028', 'L'), ('\u2029', 'P')]

def doubleChar (c : Char) : List Char :=
  match letterEscapes.lookup c with
  | some letter => ['\\', letter]
  | none =>
      if isPrintable c then [c]
      else if c.toNat ≤ 0xFF then '\\' :: 'x' :: hexCode 2 c.toNat
      else if c.toNat ≤ 0xFFFF then '\\' :: 'u' :: hexCode 4 c.toNat
      else '\\' :: 'U' :: hexCode 8 c.toNat

def double (text : List Char) : List Char := '"' :: text.flatMap doubleChar ++ ['"']

/-- The sign that tells what becomes of the line ends at the end of a literal block. -/
def chompingSign (text : List Char) : List Char :=
  match text.reverse with
  | [] => ['-']
  | [c] => if isBreak c then ['+'] else ['-']
  | c :: d :: _ => if !isBreak c then ['-'] else if isBreak d then ['+'] else []

/-- How far a block lies right of what it belongs to. -/
def indentStep : Nat := 2

/-- The digit that tells the indentation of a block whose text would hide it. -/
def indentSign (text : List Char) : List Char :=
  if text.head?.any isEdge then Nat.toDigits 10 indentStep else []

def literal (indent : Nat) (text : List Char) : List Char :=
  '|' :: indentSign text ++ chompingSign text ++ ['\n'] ++
    indentLines indent (fun c => [c]) true text

/-- A scalar, and the end of its line. -/
def scalarLine (indent : Nat) (text : List Char) : List Char :=
  match style text with
  | .plain => text ++ ['\n']
  | .single => single indent text ++ ['\n']
  | .double => double text ++ ['\n']
  | .literal =>
      literal indent text ++ if text.getLast?.any isBreak then [] else ['\n']

/-- Whether a text can be a key on the line of its value: it has one line, and at most 128
bytes. -/
def isSimpleKey (text : List Char) : Bool :=
  !text.any isBreak && (String.ofList text).utf8ByteSize ≤ 128

/-- An entry of a mapping at column `indent`, of which the key and the value are texts. -/
def entry (indent : Nat) (key value : List Char) : List Char :=
  let inner := indent + indentStep
  if isSimpleKey key then
    spaces indent ++ (scalarLine inner key).dropLast ++ ':' :: ' ' :: scalarLine inner value
  else
    spaces indent ++ '?' :: ' ' :: scalarLine inner key ++
      spaces indent ++ ':' :: ' ' :: scalarLine inner value

/-- An item of a sequence at column `indent` that is a text. -/
def item (indent : Nat) (text : List Char) : List Char :=
  spaces indent ++ '-' :: ' ' :: scalarLine (indent + indentStep) text

end Stencil.Yaml.Render
