import Mathlib.Algebra.GroupWithZero.Nat
import Stencil.Proofs.Yaml.Plain

/-! A scalar in double quotes is read back, character by character: as it is, by a letter, or by its
code in hexadecimal digits. -/

namespace Stencil.Yaml

open Render (doubleChar hexCode letterEscapes isPrintable)

/-- Each digit is read in capital letters too. -/
theorem hexDigit?_toUpper : ∀ digit < 16,
    Json.hexDigit? (Nat.digitChar digit).toUpper = some digit := by decide

/-- A further digit behind a code multiplies it by sixteen. -/
theorem hexValue?_concat (digits : List Char) (c : Char) :
    Json.hexValue? (digits ++ [c]) =
      (Json.hexValue? digits).bind fun value => (Json.hexDigit? c).map (16 * value + ·) := by
  simp only [Json.hexValue?, List.foldlM_append, List.foldlM_cons, List.foldlM_nil, bind_pure]
  rfl

theorem hexValue?_toDigits (code : Nat) :
    Json.hexValue? ((Nat.toDigits 16 code).map Char.toUpper) = some code := by
  induction code using Nat.strongRecOn with
  | ind code ih =>
      rw [Nat.toDigits_eq_if (by omega)]
      split
      · next hDigit => simp [Json.hexValue?, hexDigit?_toUpper code hDigit]
      · next hMore =>
          rw [List.map_append, List.map_singleton, hexValue?_concat, ih (code / 16) (by omega),
            hexDigit?_toUpper _ (Nat.mod_lt code (Nat.succ_pos 15))]
          simp [Nat.div_add_mod]

/-- Zeros in front of a code change nothing. -/
theorem hexValue?_zeros (count : Nat) (digits : List Char) :
    Json.hexValue? (List.replicate count '0' ++ digits) = Json.hexValue? digits := by
  induction count with
  | zero => rfl
  | succ count ih => rw [← ih]; rfl

/-- A code is read back at whatever width it was written. -/
theorem hexValue?_hexCode (width code : Nat) :
    Json.hexValue? (hexCode width code) = some code := by
  rw [hexCode, hexValue?_zeros, hexValue?_toDigits]

/-- A code takes just its width if the width is enough for it. -/
theorem length_hexCode {width code : Nat} (hWidth : 0 < width) (hCode : code < 16 ^ width) :
    (hexCode width code).length = width := by
  have hLength := (Nat.length_toDigits_le_iff (by omega) hWidth).mpr hCode
  simp [hexCode]
  omega

theorem toNat_lt (c : Char) : c.toNat < 0x110000 := by
  have hValid : c.toNat < 0xD800 ∨ 0xDFFF < c.toNat ∧ c.toNat < 0x110000 := c.valid
  omega

/-- A character is found by its code, in as many digits as the code may have. -/
theorem codeChar?_hexCode {width : Nat} {c : Char} (hWidth : 0 < width) (hCode : c.toNat < 16 ^ width)
    (rest : List Char) : codeChar? width (hexCode width c.toNat ++ rest) = some c := by
  have hLength := length_hexCode hWidth hCode
  have hScalar : c.toNat < 0xD800 ∨ 0xDFFF < c.toNat ∧ c.toNat < 0x110000 := c.valid
  rw [codeChar?, if_neg (by simp [hLength]), List.take_left' hLength, hexValue?_hexCode]
  dsimp only
  rw [if_neg, Char.ofNat_toNat]
  simp
  omega

/-- The letters in front of codes stand for nothing else. -/
theorem escapes_of_codeLength? {kind : Char} {width : Nat} (hKind : codeLength? kind = some width) :
    escapes.lookup kind = none ∧ isBreak kind = false := by
  have hLetter : kind = 'x' ∨ kind = 'u' ∨ kind = 'U' := by
    simp only [codeLength?, beq_iff_eq] at hKind
    grind
  rcases hLetter with rfl | rfl | rfl <;> decide

/-- The letters that characters are written as stand for them. -/
theorem escapes_of_letterEscapes {c letter : Char} (hLetter : letterEscapes.lookup c = some letter) :
    escapes.lookup letter = some c ∧ isBreak letter = false := by
  have hAll : ∀ pair ∈ letterEscapes,
      escapes.lookup pair.2 = some pair.1 ∧ isBreak pair.2 = false := by decide
  obtain ⟨before, after, hSplit, -⟩ := List.lookup_eq_some_iff.mp hLetter
  exact hAll (c, letter) (by simp [hSplit])

variable {mark : Mark} {gap : Gap} {read text rest : List Char} {c : Char}

/-- A letter behind a backslash stands for the character that was escaped by it. -/
theorem readDouble_letter {letter : Char} (hLetter : letterEscapes.lookup c = some letter) :
    readDouble mark gap read ('\\' :: letter :: rest) =
      readDouble (mark.along 2) .none (read ++ gap.text ++ [c]) rest := by
  obtain ⟨hMeant, hBreak⟩ := escapes_of_letterEscapes hLetter
  rw [readDouble, if_neg (by simp [hBreak]), hMeant]
  rintro _ rfl
  exact absurd rfl (ne_return_of_not_isBreak hBreak)

/-- A code behind a backslash is read back as its character, and takes one place in the text. -/
theorem readDouble_code {kind : Char} {width : Nat} (hKind : codeLength? kind = some width)
    (hWidth : 0 < width) (hCode : c.toNat < 16 ^ width) :
    readDouble mark gap read ('\\' :: kind :: hexCode width c.toNat ++ rest) =
      readDouble (mark.along ('\\' :: kind :: hexCode width c.toNat).length) .none
        (read ++ gap.text ++ [c]) rest := by
  have hLength := length_hexCode hWidth hCode
  obtain ⟨hNone, hBreak⟩ := escapes_of_codeLength? hKind
  rw [List.cons_append, List.cons_append, readDouble, if_neg (by simp [hBreak]), hNone, hKind]
  · simp only [codeChar?_hexCode hWidth hCode, List.drop_left' hLength, List.length_cons, hLength,
      Nat.add_comm 2]
  · rintro _ rfl
    exact absurd rfl (ne_return_of_not_isBreak hBreak)

/-- A character that is not escaped goes into the text behind the gap that was waiting. -/
theorem readDouble_plain (hBlank : isBlank c = false) (hBreak : isBreak c = false)
    (hQuote : c ≠ '"') (hSlash : c ≠ '\\') (hColumn : 0 < mark.column) :
    readDouble mark gap read (c :: rest) =
      readDouble (mark.along 1) .none (read ++ gap.text ++ [c]) rest := by
  rw [readDouble, if_neg (by simp [hBlank]), if_neg (by simp [hBreak]),
    if_neg (by simp [atDocumentBound_of_pos hColumn]), if_neg (by simpa using hQuote)]
  · rintro _ rfl
    exact absurd rfl (ne_return_of_not_isBreak hBreak)
  · rintro _ rfl
    exact absurd rfl hSlash
  · rintro _ _ rfl
    exact absurd rfl hSlash

theorem readDouble_close :
    readDouble mark gap read ('"' :: rest) = some (read ++ gap.text, ⟨rest, mark.along 1⟩) := by
  rw [readDouble, if_neg (by simp [isBlank]), if_neg (by simp [isBreak]),
    if_neg (by simp [atDocumentBound]), if_pos (by rfl)] <;> simp

theorem readDouble_space :
    readDouble mark gap read (' ' :: rest) = readDouble (mark.along 1) (gap.blank ' ') read rest := by
  rw [readDouble, if_pos (by rfl)] <;> simp

/-- The characters that no letter stands for. -/
theorem unescaped_of_lookup (hLetter : letterEscapes.lookup c = none) :
    isBreak c = false ∧ c ≠ '"' ∧ c ≠ '\\' := by
  have hNot : ∀ pair ∈ letterEscapes, c ≠ pair.1 := fun pair hMem => by
    simpa using List.lookup_eq_none_iff.mp hLetter pair hMem
  simp [letterEscapes] at hNot
  simp [isBreak, hNot]

/-- One character, as it is written between double quotes. -/
theorem readDouble_doubleChar (read : List Char) (c : Char) (rest : List Char)
    (hBroken : gap.broken = false) (hColumn : 0 < mark.column) :
    ∃ gap' read', gap'.broken = false ∧ read' ++ gap'.text = read ++ gap.text ++ [c] ∧
      readDouble mark gap read (doubleChar c ++ rest) =
        readDouble (mark.along (doubleChar c).length) gap' read' rest := by
  by_cases hSpace : c = ' '
  · subst hSpace
    exact ⟨gap.blank ' ', read, by simp [Gap.blank, hBroken],
      by simp [Gap.blank, Gap.text, hBroken], readDouble_space⟩
  refine ⟨.none, read ++ gap.text ++ [c], rfl, by simp [Gap.none, Gap.text], ?_⟩
  rw [doubleChar]
  split
  · next hLetter => exact readDouble_letter hLetter
  · next hLetter =>
      have hScalar := toNat_lt c
      split_ifs with hPrintable hByte hShort
      · obtain ⟨hBreak, hQuote, hSlash⟩ := unescaped_of_lookup hLetter
        exact readDouble_plain (isBlank_of_isPrintable hPrintable hSpace) hBreak hQuote hSlash
          hColumn
      · exact readDouble_code rfl (by omega) (by omega)
      · exact readDouble_code rfl (by omega) (by omega)
      · exact readDouble_code rfl (by omega) (by omega)

/-- What is written of a text between double quotes is read as the text. -/
theorem readDouble_text (hBroken : gap.broken = false) (hColumn : 0 < mark.column) :
    readDouble mark gap read (text.flatMap doubleChar ++ '"' :: rest) =
      some (read ++ gap.text ++ text,
        ⟨rest, mark.along (text.flatMap doubleChar ++ ['"']).length⟩) := by
  induction text generalizing mark gap read with
  | nil => simp [readDouble_close]
  | cons c text ih =>
      obtain ⟨gap', read', hBroken', hRead, hHere⟩ :=
        readDouble_doubleChar read c (text.flatMap doubleChar ++ '"' :: rest) hBroken hColumn
      rw [List.flatMap_cons, List.append_assoc, hHere,
        ih hBroken' (Nat.add_pos_left hColumn _), hRead, Mark.along_along]
      simp

/-- A scalar in double quotes, from behind the first one. -/
theorem readDouble_double {mark : Mark} (hColumn : 0 < mark.column) (text rest : List Char) :
    readDouble mark .none [] (text.flatMap doubleChar ++ '"' :: rest) =
      some (text, ⟨rest, mark.along (text.flatMap doubleChar ++ ['"']).length⟩) :=
  readDouble_text rfl hColumn

end Stencil.Yaml
