import Mathlib.Data.Nat.Digits.Defs
import Stencil.Json.Quoted

/-! What is written between quotes is read back, character by character. -/

namespace Stencil.Json

/-- A letter behind a backslash stands for the one character that it names. -/
theorem unquote_short {c meant : Char} (rest : List Char) (hMeant : shortEscape? c = some meant) :
    unquote ('\\' :: c :: rest) = Read.prepend meant (unquote rest) := by
  have hCode : c ≠ 'u' := by
    rintro rfl
    cases hMeant
  rw [unquote, hMeant]
  exact fun _ _ _ _ _ hSame _ => hCode hSame

/-- A code below the surrogates stands for its character. -/
theorem unquote_code {a b c d : Char} {code : Nat} (rest : List Char)
    (hCode : hexValue? [a, b, c, d] = some code) (hLow : code < 0xD800) :
    unquote ('\\' :: 'u' :: a :: b :: c :: d :: rest) =
      Read.prepend (Char.ofNat code) (unquote rest) := by
  have hOpens : isHighUnit code = false := by simp [isHighUnit]; omega
  have hCloses : isLowUnit code = false := by simp [isLowUnit]; omega
  simp [unquote, hCode, hOpens, hCloses]

/-- A character that needs no backslash stands for itself. -/
theorem unquote_plain {c : Char} (rest : List Char) (hQuote : c ≠ '"') (hSlash : c ≠ '\\')
    (hControl : ¬ c < ' ') : unquote (c :: rest) = Read.prepend c (unquote rest) := by
  rw [unquote, if_neg hControl]
  · exact hQuote
  · exact fun _ _ _ _ _ hSame _ => hSlash hSame
  · exact fun _ _ hSame _ => hSlash hSame

/-- The two digits of a control character's code give the code back, behind two zeros. -/
theorem hexValue?_control : ∀ code < 32,
    hexValue? ['0', '0', Nat.digitChar (code / 16), Nat.digitChar (code % 16)] = some code := by
  decide

/-- Every character is read back from how it is written, whichever of the forms it takes. -/
theorem unquote_writeChar (c : Char) (rest : List Char) :
    unquote (writeChar c ++ rest) = Read.prepend c (unquote rest) := by
  rw [writeChar]
  split_ifs with hQuote hSlash hBack hFeed hLine hReturn hTab hControl
  · subst hQuote
    exact unquote_short rest rfl
  · subst hSlash
    exact unquote_short rest rfl
  · subst hBack
    exact unquote_short rest rfl
  · subst hFeed
    exact unquote_short rest rfl
  · subst hLine
    exact unquote_short rest rfl
  · subst hReturn
    exact unquote_short rest rfl
  · subst hTab
    exact unquote_short rest rfl
  · have hCode : c.toNat < 32 := hControl
    have hRead := unquote_code rest (hexValue?_control c.toNat hCode) (by omega)
    rwa [Char.ofNat_toNat] at hRead
  · exact unquote_plain rest hQuote hSlash hControl

/-- A whole text is read back up to the quote that closes it, and the rest is left. -/
theorem unquote_written (text rest : List Char) :
    unquote (text.flatMap writeChar ++ '"' :: rest) = some (some text, rest) := by
  induction text with
  | nil => simp [unquote]
  | cons c text ih => simp [unquote_writeChar, ih, Read.prepend]

end Stencil.Json
