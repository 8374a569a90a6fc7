import Stencil.Text.Quoted

/-!
Texts in JSON: between double quotes, with escapes for the quote, the backslash and the
control characters. Any character may also be written by its code in units of sixteen bits;
a unit of a surrogate pair that lacks its partner stands for no character.
-/

namespace Stencil.Json

def hexDigit? (c : Char) : Option Nat :=
  if '0' ≤ c && c ≤ '9' then some (c.toNat - '0'.toNat)
  else if 'a' ≤ c && c ≤ 'f' then some (c.toNat - 'a'.toNat + 10)
  else if 'A' ≤ c && c ≤ 'F' then some (c.toNat - 'A'.toNat + 10)
  else none

/-- The value of hexadecimal digits, the first one highest. -/
def hexValue? (digits : List Char) : Option Nat :=
  digits.foldlM (fun value c => (hexDigit? c).map (16 * value + ·)) 0

/-- The character that a short escape stands for. -/
def shortEscape? (c : Char) : Option Char :=
  if c = '"' || c = '\\' || c = '/' then some c
  else if c = 'b' then some '\x08'
  else if c = 'f' then some '\x0C'
  else if c = 'n' then some '\n'
  else if c = 'r' then some '\r'
  else if c = 't' then some '\t'
  else none

/-- Whether a unit opens a surrogate pair. -/
def isHighUnit (unit : Nat) : Bool := 0xD800 ≤ unit && unit < 0xDC00

/-- Whether a unit closes a surrogate pair. -/
def isLowUnit (unit : Nat) : Bool := 0xDC00 ≤ unit && unit < 0xE000

/-- The character of a surrogate pair. -/
def pairChar (high low : Nat) : Char :=
  Char.ofNat (0x10000 + (high - 0xD800) * 0x400 + (low - 0xDC00))

/-- The unit that closes a surrogate pair, if a text begins with one. -/
def lowUnit? : List Char → Option Nat
  | '\\' :: 'u' :: a :: b :: c :: d :: _ => (hexValue? [a, b, c, d]).filter isLowUnit
  | _ => none

/-- A text as read: its characters, or `none` if some unit lacks its partner. -/
abbrev Read := Option (List Char)

/-- Puts a character in front of what was read. -/
def Read.prepend (c : Char) (read : Option (Read × List Char)) : Option (Read × List Char) :=
  read.map fun (text, rest) => (text.map (c :: ·), rest)

/-- Reads a text up to its closing quote, and gives what follows. -/
def unquote : List Char → Option (Read × List Char)
  | [] => none
  | '"' :: rest => some (some [], rest)
  | '\\' :: 'u' :: a :: b :: c :: d :: rest =>
      match hexValue? [a, b, c, d] with
      | none => none
      | some unit =>
          if isHighUnit unit then
            match lowUnit? rest with
            | some low => Read.prepend (pairChar unit low) (unquote (rest.drop 6))
            | none => (unquote rest).map fun (_, rest) => (none, rest)
          else if isLowUnit unit then (unquote rest).map fun (_, rest) => (none, rest)
          else Read.prepend (Char.ofNat unit) (unquote rest)
  | '\\' :: c :: rest =>
      match shortEscape? c with
      | none => none
      | some c => Read.prepend c (unquote rest)
  | c :: rest => if c < ' ' then none else Read.prepend c (unquote rest)
termination_by text => text.length
decreasing_by all_goals simp_wf <;> omega

def writeChar (c : Char) : List Char :=
  if c = '"' then ['\\', '"']
  else if c = '\\' then ['\\', '\\']
  else if c = '\x08' then ['\\', 'b']
  else if c = '\x0C' then ['\\', 'f']
  else if c = '\n' then ['\\', 'n']
  else if c = '\r' then ['\\', 'r']
  else if c = '\t' then ['\\', 't']
  else if c < ' ' then
    ['\\', 'u', '0', '0', Nat.digitChar (c.toNat / 16), Nat.digitChar (c.toNat % 16)]
  else [c]

def quote (text : List Char) : List Char := '"' :: text.flatMap writeChar ++ ['"']

end Stencil.Json
