import Stencil.Fault
import Stencil.Text.Blank

/-!
Size limits such as `3 mb`, `50kb` or `1 GB`: a whole number and a unit.
-/

namespace Stencil.SizeLimit

/-- Sizes are below this bound. -/
def bound : Nat := Nat.pow 2 64

/-- A unit name in small letters, and its size in bytes. -/
def units : List (String × Nat) :=
  [("kb", 1024), ("mb", 1024 * 1024), ("gb", 1024 * 1024 * 1024)]

def digitsValue (digits : List Char) : Nat :=
  digits.foldl (fun value c => 10 * value + (c.toNat - '0'.toNat)) 0

/-- Reads a whole number below the bound: decimal digits with an optional plus sign. -/
def number? (text : List Char) : Option Nat :=
  let digits :=
    match text with
    | '+' :: rest => rest
    | _ => text
  if digits.isEmpty || !digits.all Char.isDigit then none
  else if digitsValue digits < bound then some (digitsValue digits)
  else none

/-- Reads a unit name, in either case. -/
def unit? (text : List Char) : Option Nat :=
  units.lookup (String.ofList (text.map Char.toLower))

/-- Reads a number and a unit. The unit starts at the first letter. -/
def bytes? (text : List Char) : Option Nat :=
  let trimmed := Text.trim text
  let amount := trimmed.takeWhile fun c => !c.isAlpha
  let unit := trimmed.dropWhile fun c => !c.isAlpha
  match number? (Text.trim amount), unit? (Text.trim unit) with
  | some amount, some unit => if amount * unit < bound then some (amount * unit) else none
  | _, _ => none

/-- The number of bytes that a size limit allows. -/
def parse (text : String) : Except Fault Nat :=
  match bytes? text.toList with
  | some bytes => .ok bytes
  | none => .error (.invalidSize text)

end Stencil.SizeLimit
