import Stencil.Proofs.Yaml.Cursor
import Stencil.Yaml.Scalar

/-! A plain scalar as it is written is read back: up to the colon after a key, and else up to the
content of the next line, if that begins far enough to the left. -/

namespace Stencil.Yaml

open Render (hasAdjacent isGap isEdge allowsPlain spaces isPrintable)

theorem hasAdjacent_tail {p q : Char → Bool} {c : Char} {text : List Char}
    (hNone : hasAdjacent p q (c :: text) = false) : hasAdjacent p q text = false := by
  cases text with
  | nil => rfl
  | cons d text => exact (Bool.or_eq_false_iff.mp hNone).2

theorem hasAdjacent_head {p q : Char → Bool} {c d : Char} {text : List Char}
    (hNone : hasAdjacent p q (c :: d :: text) = false) (hFirst : p c = true) : q d = false := by
  simpa [hFirst] using (Bool.or_eq_false_iff.mp hNone).1

theorem isBlank_of_isPrintable {c : Char} (hPrintable : isPrintable c = true) (hSpace : c ≠ ' ') :
    isBlank c = false := by
  have hTab : c ≠ '\t' := by
    rintro rfl
    cases hPrintable
  simp [isBlank, hSpace, hTab]

/-- What a plain scalar may go on with. -/
structure GoesOn (text : List Char) : Prop where
  within : ∀ c ∈ text, isPrintable c = true ∧ isBreak c = false
  colon : hasAdjacent (· == ':') isGap text = false
  comment : hasAdjacent isGap (· == '#') text = false
  last : text.getLast? ≠ some ' ' ∧ text.getLast? ≠ some ':'

namespace GoesOn

variable {c : Char} {text : List Char}

theorem of_allowsPlain (hPlain : allowsPlain text = true) : GoesOn text := by
  simp only [allowsPlain, Render.hasIndicators, Bool.not_eq_true', Bool.or_eq_false_iff,
    List.any_eq_false, Bool.not_eq_false, Bool.not_eq_true, beq_eq_false_iff_ne] at hPlain
  obtain ⟨⟨⟨⟨hBreak, hPrintable⟩, -⟩, hEdge⟩, ⟨⟨-, hLast⟩, hColon⟩, hComment⟩ := hPlain
  refine ⟨fun c hMem => ⟨hPrintable c hMem, hBreak c hMem⟩, hColon, hComment, ?_, hLast⟩
  intro hSpace
  simp [hSpace, isEdge] at hEdge

theorem tail (hText : GoesOn (c :: text)) : GoesOn text where
  within := fun d hMem => hText.within d (List.mem_cons_of_mem c hMem)
  colon := hasAdjacent_tail hText.colon
  comment := hasAdjacent_tail hText.comment
  last := by
    have hLast := hText.last
    cases text with
    | nil => simp
    | cons d text => rwa [List.getLast?_cons_cons] at hLast

/-- A colon in it is no sign of a value, whatever follows the text. -/
theorem not_atGap (hText : GoesOn (c :: text)) (rest : List Char) :
    (c == ':' && atGap (text ++ rest)) = false := by
  by_cases hColon : c = ':'
  · subst hColon
    cases text with
    | nil => exact absurd rfl hText.last.2
    | cons d text =>
        have hGap := hasAdjacent_head hText.colon rfl
        simp only [isGap, Bool.or_eq_false_iff] at hGap
        simp [atGap, hGap]
  · simp [hColon]

end GoesOn

theorem atDocumentBound_of_pos {mark : Mark} (hColumn : 0 < mark.column) (text : List Char) :
    atDocumentBound text mark = false := by
  simp [atDocumentBound, Nat.ne_of_gt hColumn]

variable {indent : Int} {mark : Mark} {gap : Gap} {read text rest : List Char}

theorem readPlain_space :
    readPlain false indent mark gap read (' ' :: rest) =
      readPlain false indent (mark.along 1) (gap.blank ' ') read rest := by
  rw [readPlain]
  · simp [isBlank]
  · simp

/-- Behind a gap, a scalar goes on where the line begins far enough to the right. -/
theorem readPlain_char {c : Char} (hBlank : isBlank c = false) (hBreak : isBreak c = false)
    (hGap : gap = .none ∨ indent ≤ mark.column ∧ 0 < mark.column ∧ c ≠ '#')
    (hColon : (c == ':' && atGap rest) = false) :
    readPlain false indent mark gap read (c :: rest) =
      readPlain false indent (mark.along 1) .none (read ++ gap.text ++ [c]) rest := by
  have hStop : (!gap.isNone && ((!false && decide ((mark.column : Int) < indent)) ||
      atDocumentBound (c :: rest) mark || c == '#')) = false := by
    rcases hGap with rfl | ⟨hIndent, hColumn, hComment⟩
    · rfl
    · simp [atDocumentBound_of_pos hColumn, hComment, hIndent]
  rw [readPlain, if_neg (by simp [hBlank]), if_neg (by simp [hBreak]), hStop, if_neg (by simp)]
  · simp [hColon]
  · rintro _ rfl
    exact absurd rfl (ne_return_of_not_isBreak hBreak)

/-- The characters of a text are read as they are. -/
theorem readPlain_text (hText : GoesOn text) (hIndent : indent ≤ mark.column + 1)
    (hGap : gap = .none ∨ gap.broken = false ∧ text ≠ [] ∧ indent ≤ mark.column ∧
      0 < mark.column ∧ text.head? ≠ some '#') :
    readPlain false indent mark gap read (text ++ rest) =
      readPlain false indent (mark.past text) .none (read ++ gap.text ++ text) rest := by
  induction text generalizing mark gap read with
  | nil =>
      rcases hGap with rfl | ⟨-, hNil, -⟩
      · simp [Gap.none, Gap.text]
      · exact absurd rfl hNil
  | cons c text ih =>
      obtain ⟨hPrintable, hBreak⟩ := hText.within c List.mem_cons_self
      have hBroken : gap.broken = false := by
        rcases hGap with rfl | ⟨hBroken, -⟩
        · rfl
        · exact hBroken
      have hColumn : indent ≤ (mark.along 1).column := by simpa using hIndent
      rw [Mark.past_along _ _ hBreak, List.cons_append]
      by_cases hSpace : c = ' '
      · subst hSpace
        have hMore : text ≠ [] := by
          rintro rfl
          exact hText.last.1 rfl
        have hComment : text.head? ≠ some '#' := by
          cases text with
          | nil => simp
          | cons d text => simpa using hasAdjacent_head hText.comment rfl
        rw [readPlain_space, ih hText.tail (by omega)
          (.inr ⟨by simp [Gap.blank, hBroken], hMore, hColumn, by simp, hComment⟩)]
        simp [Gap.blank, Gap.text, hBroken]
      · have hBlank := isBlank_of_isPrintable hPrintable hSpace
        have hHere : gap = .none ∨ indent ≤ mark.column ∧ 0 < mark.column ∧ c ≠ '#' :=
          hGap.imp_right fun ⟨_, _, hIndent, hColumn, hComment⟩ =>
            ⟨hIndent, hColumn, by simpa using hComment⟩
        rw [readPlain_char hBlank hBreak hHere (hText.not_atGap rest),
          ih hText.tail (by omega) (.inl rfl)]
        simp [Gap.none, Gap.text]

/-- Behind the end of its line, a scalar ends at the content of a line on the left. -/
theorem readPlain_margin (hBroken : gap.broken = true) (hSolid : isSolid (content rest) = true)
    (hLeft : (mark.column + margin rest : Int) < indent) :
    readPlain false indent mark gap read rest =
      some ⟨read, true, ⟨content rest, mark.along (margin rest)⟩⟩ := by
  induction rest generalizing mark with
  | nil => simp [readPlain, hBroken, Mark.along]
  | cons c rest ih =>
      by_cases hSpace : c = ' '
      · subst hSpace
        rw [margin_space, content_space] at *
        rw [readPlain_space, Gap.blank, if_pos hBroken, ih hSolid (by simp; omega),
          Mark.along_along, Nat.add_comm]
      · rw [margin_of_ne hSpace] at hLeft ⊢
        rw [content_of_ne hSpace] at hSolid ⊢
        obtain ⟨hBlank, hBreak, -, -⟩ := isSolid_cons hSolid
        have hNone : gap.isNone = false := by simp [Gap.isNone, hBroken]
        rw [readPlain, if_neg (by simp [hBlank]), if_neg (by simp [hBreak]), if_pos, hBroken]
        · rfl
        · simpa [hNone] using .inl (.inl (by simpa using hLeft))
        · rintro _ rfl
          exact absurd rfl (ne_return_of_not_isBreak hBreak)

/-- A plain scalar and the end of its line. -/
theorem readPlain_line {column : Nat} (mark : Mark) (hText : GoesOn text)
    (hIndent : column ≤ mark.column) (hFollows : Follows column rest) :
    readPlain false (column + 1) mark .none [] (text ++ '\n' :: rest) =
      some ⟨text, true, ⟨content rest, mark.past (text ++ '\n' :: spaces (margin rest))⟩⟩ := by
  rw [readPlain_text hText (by omega) (.inl rfl), readPlain, if_neg (by simp [isBlank]),
    if_pos (by rfl), readPlain_margin rfl hFollows.solid, Mark.past_append,
    Mark.past_break _ _ rfl, Mark.past_spaces]
  · simp [Gap.none, Gap.text]
  · have hMargin := hFollows.margin_le
    simp
    omega
  · simp

/-- A plain scalar in front of the colon that makes a key of it. -/
theorem readPlain_key (mark : Mark) (hText : GoesOn text) (hIndent : indent ≤ mark.column + 1)
    (hGap : atGap rest = true) :
    readPlain false indent mark .none [] (text ++ ':' :: rest) =
      some ⟨text, false, ⟨':' :: rest, mark.past text⟩⟩ := by
  rw [readPlain_text hText hIndent (.inl rfl), readPlain, if_neg (by simp [isBlank]),
    if_neg (by simp [isBreak]), if_neg (by simp [Gap.none, Gap.isNone])]
  · simp [hGap, Gap.none, Gap.text]
  · simp

end Stencil.Yaml
