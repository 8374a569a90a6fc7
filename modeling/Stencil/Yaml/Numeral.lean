import Stencil.Occurrence
import Stencil.Json.Quoted

/-!
Plain scalars that other readers take for numbers: whole numbers to four bases, decimal
fractions that a double can hold, and the names of infinity and of no number.
-/

namespace Stencil.Yaml.Numeral

/-- The value of digits to a base of at most sixteen, the first one highest. -/
def value? (base : Nat) (digits : List Char) : Option Nat :=
  if digits.isEmpty then none
  else
    digits.foldlM
      (fun value c =>
        match Json.hexDigit? c with
        | some digit => if digit < base then some (base * value + digit) else none
        | none => none) 0

/-- What marks the bases other than ten. -/
def bases : List (List Char × Nat) :=
  [(['0', 'x'], 16), (['0', 'o'], 8), (['0', 'b'], 2)]

/-- Whether a text is a marked base and digits to it, of a value below `bound`. -/
def isMarked (bound : Nat) (text : List Char) : Bool :=
  bases.any fun (mark, base) =>
    match Occurrence.afterFront? mark text with
    | some digits => (value? base digits).any fun value => value < bound
    | none => false

def dropSign (text : List Char) : List Char :=
  match text with
  | '+' :: rest | '-' :: rest => rest
  | _ => text

/-- Whether a text is a whole number to a marked base, in 128 bits. -/
def isMarkedInteger (text : List Char) : Bool :=
  match text with
  | '-' :: rest => isMarked (Nat.pow 2 127 + 1) rest
  | '+' :: rest => isMarked (Nat.pow 2 128) rest
  | _ => isMarked (Nat.pow 2 128) text

/-- Whether a text is digits that begin with a needless zero. -/
def isPadded (text : List Char) : Bool :=
  match dropSign text with
  | '0' :: rest => !rest.isEmpty && rest.all Char.isDigit
  | _ => false

def decimalValue (digits : List Char) : Nat :=
  digits.foldl (fun value c => 10 * value + (c.toNat - '0'.toNat)) 0

/-- Reads an exponent: nothing, or `e` with a whole number. -/
def exponent? (text : List Char) : Option Int :=
  match text with
  | [] => some 0
  | c :: rest =>
      let digits := dropSign rest
      if (c = 'e' || c = 'E') && !digits.isEmpty && digits.all Char.isDigit then
        some (if rest.head? = some '-' then -(decimalValue digits : Int)
          else decimalValue digits)
      else none

/-- Reads a decimal fraction without a sign: its digits as a whole number, how many they
are, and the power of ten to multiply by. -/
def fraction? (text : List Char) : Option (Nat × Nat × Int) :=
  let whole := text.takeWhile Char.isDigit
  let afterWhole := text.dropWhile Char.isDigit
  let (part, rest) :=
    match afterWhole with
    | '.' :: rest => (rest.takeWhile Char.isDigit, rest.dropWhile Char.isDigit)
    | _ => ([], afterWhole)
  if whole.isEmpty && part.isEmpty then none
  else
    (exponent? rest).map fun exponent =>
      (decimalValue (whole ++ part), (whole ++ part).length, exponent - part.length)

/-- The least number that rounds to no double. -/
def doubleBound : Nat := Nat.pow 2 1024 - Nat.pow 2 970

/-- Whether a double can hold a number of so many digits, times a power of ten. -/
def fitsDouble (digits length : Nat) (exponent : Int) : Bool :=
  if digits = 0 then true
  else if 0 ≤ exponent then
    decide (exponent ≤ 400) && decide (digits * Nat.pow 10 exponent.toNat < doubleBound)
  else
    let places := exponent.natAbs
    length ≤ places + 308 || decide (digits < doubleBound * Nat.pow 10 places)

/-- Whether a text is a decimal fraction that a double can hold. -/
def isDecimal (text : List Char) : Bool :=
  match fraction? (dropSign text) with
  | some (digits, length, exponent) => fitsDouble digits length exponent
  | none => false

/-- The names of what is no finite number. -/
def names : List String :=
  [".inf", ".Inf", ".INF", "+.inf", "+.Inf", "+.INF", "-.inf", "-.Inf", "-.INF", ".nan",
    ".NaN", ".NAN"]

/-- Whether a text would be taken for a number, or looks like one. -/
def isNumeral (text : List Char) : Bool :=
  isMarkedInteger text || isPadded text || isDecimal text ||
    names.contains (String.ofList text)

end Stencil.Yaml.Numeral
