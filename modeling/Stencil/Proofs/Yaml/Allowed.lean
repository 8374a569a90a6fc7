import Stencil.Proofs.Yaml.Scalar

/-! Whatever a text holds, what is written of it has only characters that may occur in a document. -/

namespace Stencil.Yaml

open Render (scalarLine isPrintable doubleChar hexCode letterEscapes indentLines spaces)

/-- What can be written as it is can be read: a scalar that is not escaped brings in no character
that a document may not have. -/
theorem isAllowed_of_isPrintable {c : Char} (hPrintable : isPrintable c = true) :
    isAllowed c = true := by
  simp only [isPrintable, isAllowed, Bool.or_eq_true, Bool.and_eq_true, beq_iff_eq,
    decide_eq_true_eq, bne_iff_ne] at hPrintable ⊢
  omega

theorem isAllowed_marks {a b : Char} {text : List Char} (hA : isAllowed a = true)
    (hB : isAllowed b = true) (hText : ∀ c ∈ text, isAllowed c = true) :
    ∀ c ∈ a :: b :: text, isAllowed c = true :=
  List.forall_mem_cons.mpr ⟨hA, List.forall_mem_cons.mpr ⟨hB, hText⟩⟩

theorem isAllowed_spaces (count : Nat) : ∀ c ∈ spaces count, isAllowed c = true := by
  intro c hMem
  rw [List.eq_of_mem_replicate hMem]
  rfl

/-- Indentation adds nothing but spaces. -/
theorem isAllowed_indentLines {write : Char → List Char} {text : List Char} (indent : Nat)
    (fresh : Bool) (hText : ∀ c ∈ text, isAllowed c = true ∧ ∀ d ∈ write c, isAllowed d = true) :
    ∀ c ∈ indentLines indent write fresh text, isAllowed c = true := by
  induction text generalizing fresh with
  | nil => simp [indentLines]
  | cons c text ih =>
      obtain ⟨⟨hHere, hWrite⟩, hMore⟩ := List.forall_mem_cons.mp hText
      have hSpaces : ∀ d ∈ (if fresh then spaces indent else []), isAllowed d = true := by
        cases fresh with
        | true => exact isAllowed_spaces indent
        | false => simp
      rw [indentLines]
      split
      · exact List.forall_mem_cons.mpr ⟨hHere, ih true hMore⟩
      · simp only [List.forall_mem_append]
        exact ⟨⟨hSpaces, hWrite⟩, ih false hMore⟩

theorem exists_digit_of_mem_toDigits {c : Char} {code : Nat} (hMem : c ∈ Nat.toDigits 16 code) :
    ∃ digit < 16, c = Nat.digitChar digit := by
  induction code using Nat.strongRecOn with
  | ind code ih =>
      rw [Nat.toDigits_eq_if (by omega)] at hMem
      split at hMem
      · next hDigit => exact ⟨code, hDigit, List.mem_singleton.mp hMem⟩
      · rcases List.mem_append.mp hMem with hMem | hMem
        · exact ih (code / 16) (by omega) hMem
        · exact ⟨code % 16, Nat.mod_lt code (Nat.succ_pos 15), List.mem_singleton.mp hMem⟩

/-- Escaped codes are digits and capital letters. -/
theorem isAllowed_hexCode (width code : Nat) : ∀ c ∈ hexCode width code, isAllowed c = true := by
  have hDigits : ∀ digit < 16, isAllowed (Nat.digitChar digit).toUpper = true := by decide
  intro c hMem
  rcases List.mem_append.mp hMem with hMem | hMem
  · rw [List.eq_of_mem_replicate hMem]
    rfl
  · obtain ⟨d, hDigit, rfl⟩ := List.mem_map.mp hMem
    obtain ⟨digit, hLess, rfl⟩ := exists_digit_of_mem_toDigits hDigit
    exact hDigits digit hLess

/-- Between double quotes every character is written with allowed ones, whatever it is itself. -/
theorem isAllowed_doubleChar (c : Char) : ∀ d ∈ doubleChar c, isAllowed d = true := by
  have hLetters : ∀ pair ∈ letterEscapes, isAllowed pair.2 = true := by decide
  rw [doubleChar]
  split
  · next letter hLetter =>
      obtain ⟨before, after, hSplit, -⟩ := List.lookup_eq_some_iff.mp hLetter
      have hAllowed := hLetters (c, letter) (by simp [hSplit])
      simpa using ⟨rfl, hAllowed⟩
  · split_ifs with hPrintable hByte hShort
    · simpa using isAllowed_of_isPrintable hPrintable
    · exact List.forall_mem_cons.mpr ⟨rfl, List.forall_mem_cons.mpr ⟨rfl, isAllowed_hexCode _ _⟩⟩
    · exact List.forall_mem_cons.mpr ⟨rfl, List.forall_mem_cons.mpr ⟨rfl, isAllowed_hexCode _ _⟩⟩
    · exact List.forall_mem_cons.mpr ⟨rfl, List.forall_mem_cons.mpr ⟨rfl, isAllowed_hexCode _ _⟩⟩

/-- Single quotes are used for printable text only, and leave it as it is but for doubled quotes and
the spaces in front of further lines. -/
theorem isAllowed_single {text : List Char} (indent : Nat)
    (hText : ∀ c ∈ text, isPrintable c = true) :
    ∀ c ∈ Render.single indent text, isAllowed c = true := by
  have hInside : ∀ c ∈ text, isAllowed c = true ∧ ∀ d ∈ singleChar c, isAllowed d = true := by
    intro c hMem
    have hAllowed := isAllowed_of_isPrintable (hText c hMem)
    rw [singleChar]
    split <;> simp [hAllowed]
    rfl
  have hClosing : ∀ c ∈ closing indent false text, isAllowed c = true := by
    refine List.forall_mem_append.mpr ⟨?_, List.forall_mem_singleton.mpr rfl⟩
    split
    · exact isAllowed_spaces indent
    · simp
  rw [single_eq]
  exact List.forall_mem_append.mpr
    ⟨List.forall_mem_cons.mpr ⟨rfl, isAllowed_indentLines indent false hInside⟩, hClosing⟩

/-- Double quotes stand around any text at all. -/
theorem isAllowed_double (text : List Char) : ∀ c ∈ Render.double text, isAllowed c = true := by
  refine List.forall_mem_append.mpr
    ⟨List.forall_mem_cons.mpr ⟨rfl, fun c hMem => ?_⟩, List.forall_mem_singleton.mpr rfl⟩
  obtain ⟨d, -, hChar⟩ := List.mem_flatMap.mp hMem
  exact isAllowed_doubleChar d c hChar

/-- Blocks are used for printable text only. Behind its bar the header has two signs at most. -/
theorem isAllowed_literal {text : List Char} (indent : Nat)
    (hText : ∀ c ∈ text, isPrintable c = true) :
    ∀ c ∈ Render.literal indent text, isAllowed c = true := by
  have hInside : ∀ c ∈ text, isAllowed c = true ∧ ∀ d ∈ asItIs c, isAllowed d = true := by
    intro c hMem
    simpa using isAllowed_of_isPrintable (hText c hMem)
  have hSign : ∀ c ∈ Render.indentSign text, isAllowed c = true := by
    rw [indentSign_eq]
    split
    · exact List.forall_mem_singleton.mpr rfl
    · simp
  have hChomping : ∀ c ∈ Render.chompingSign text, isAllowed c = true := by
    obtain ⟨chomping, hSign⟩ := exists_sign text
    rw [hSign]
    cases chomping with
    | strip => exact List.forall_mem_singleton.mpr rfl
    | clip => exact List.forall_mem_nil _
    | keep => exact List.forall_mem_singleton.mpr rfl
  refine List.forall_mem_append.mpr ⟨List.forall_mem_append.mpr
    ⟨List.forall_mem_append.mpr ⟨List.forall_mem_cons.mpr ⟨rfl, hSign⟩, hChomping⟩,
      List.forall_mem_singleton.mpr rfl⟩,
    isAllowed_indentLines indent true hInside⟩

/-- A scalar in any style. -/
theorem isAllowed_scalarLine (indent : Nat) (text : List Char) :
    ∀ c ∈ scalarLine indent text, isAllowed c = true := by
  have hEnd : ∀ c ∈ ['\n'], isAllowed c = true := List.forall_mem_singleton.mpr rfl
  rcases style_cases text with ⟨hStyle, -, hPlain⟩ | ⟨hStyle, hSingle, hFeed⟩ | hStyle |
    ⟨hStyle, hBlock, -⟩
  · have hGoesOn := GoesOn.of_allowsPlain hPlain
    rw [scalarLine, hStyle]
    exact List.forall_mem_append.mpr
      ⟨fun c hMem => isAllowed_of_isPrintable (hGoesOn.within c hMem).1, hEnd⟩
  · have hGoesOn := GoesOnQuoted.of_allowsSingle hSingle hFeed
    rw [scalarLine, hStyle]
    exact List.forall_mem_append.mpr ⟨isAllowed_single indent hGoesOn.printable, hEnd⟩
  · rw [scalarLine, hStyle]
    exact List.forall_mem_append.mpr ⟨isAllowed_double text, hEnd⟩
  · rw [scalarLine, hStyle]
    refine List.forall_mem_append.mpr ⟨isAllowed_literal indent (printable_of_allowsBlock hBlock), ?_⟩
    split
    · simp
    · exact hEnd

end Stencil.Yaml
