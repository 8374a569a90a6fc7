import Stencil.Text.CaseTable

/-!
Upper and lower case of a text. A character may become several characters, and a capital
sigma that ends a word is lowered to the final form of the letter.
-/

namespace Stencil.Text

/-- The other case of a character, or the character itself. -/
def changeCase (runs : List CaseRun) (expansions : List (Nat × List Nat)) (c : Char) :
    List Char :=
  match runs.find? fun run => run.has c.toNat with
  | some run => [Char.ofNat (c.toNat + run.shift).toNat]
  | none =>
      match expansions.lookup c.toNat with
      | some codes => codes.map Char.ofNat
      | none => [c]

/-- The lower form of a character, its context left aside. -/
def lowerChar (c : Char) : List Char := changeCase lowerRuns lowerExpansions c

def upperChar (c : Char) : List Char := changeCase upperRuns upperExpansions c

/-- Whether the first character that is not case-ignorable has case. -/
def meetsCased (text : List Char) : Bool :=
  match text.dropWhile fun c => inRanges caseIgnorableRanges c.toNat with
  | [] => false
  | c :: _ => inRanges casedRanges c.toNat

/-- Lowers `text`; `before` holds, last one first, the characters in front of it. A sigma
is final if a cased character precedes it and none follows. -/
def lowerFrom (before : List Char) : List Char → List Char
  | [] => []
  | c :: after =>
      (if c = 'Σ' then
        [if meetsCased before && !meetsCased after then 'ς' else 'σ']
      else lowerChar c) ++ lowerFrom (c :: before) after

def lower (text : String) : String := String.ofList (lowerFrom [] text.toList)

def upper (text : String) : String := String.ofList (text.toList.flatMap upperChar)

end Stencil.Text
