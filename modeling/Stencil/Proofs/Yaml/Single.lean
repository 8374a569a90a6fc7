import Stencil.Proofs.Yaml.Plain

/-! A scalar in single quotes is read back. The spaces that its lines are indented by count for
nothing, as a line end came before them. -/

namespace Stencil.Yaml

open Render (hasAdjacent allowsSingle spaces indentLines isPrintable)

/-- What may go on between single quotes. -/
structure GoesOnQuoted (text : List Char) : Prop where
  printable : ∀ c ∈ text, isPrintable c = true
  noFeed : '\n' ∉ text
  breakThenSpace : hasAdjacent isBreak (· == ' ') text = false
  spaceThenBreak : hasAdjacent (· == ' ') isBreak text = false

namespace GoesOnQuoted

variable {c : Char} {text : List Char}

/-- The style is chosen for such texts only. Line feeds are left to blocks. -/
theorem of_allowsSingle (hSingle : allowsSingle text = true) (hFeed : '\n' ∉ text) :
    GoesOnQuoted text := by
  simp only [allowsSingle, Bool.not_eq_true', Bool.or_eq_false_iff, List.any_eq_false,
    Bool.not_eq_false] at hSingle
  exact ⟨hSingle.1.1, hFeed, hSingle.1.2, hSingle.2⟩

theorem tail (hText : GoesOnQuoted (c :: text)) : GoesOnQuoted text where
  printable := fun d hMem => hText.printable d (List.mem_cons_of_mem c hMem)
  noFeed := fun hMem => hText.noFeed (List.mem_cons_of_mem c hMem)
  breakThenSpace := hasAdjacent_tail hText.breakThenSpace
  spaceThenBreak := hasAdjacent_tail hText.spaceThenBreak

end GoesOnQuoted

theorem ne_return_of_isPrintable {c : Char} (hPrintable : isPrintable c = true) : c ≠ '\r' := by
  rintro rfl
  cases hPrintable

/-- A line end that is written as it is reads as it is. -/
theorem breakChar_of_isPrintable {c : Char} (hPrintable : isPrintable c = true)
    (hBreak : isBreak c = true) : breakChar c = c := by
  simp only [isBreak, Bool.or_eq_true, beq_iff_eq] at hBreak
  rcases hBreak with (((rfl | rfl) | rfl) | rfl) | rfl
  · rfl
  · cases hPrintable
  · cases hPrintable
  · rfl
  · rfl

/-- How a character is written between single quotes. -/
def singleChar (c : Char) : List Char := if c == '\'' then ['\'', '\''] else [c]

variable {indent : Nat} {mark : Mark} {gap : Gap} {read text rest : List Char} {c : Char}

theorem readSingle_space :
    readSingle mark gap read (' ' :: rest) = readSingle (mark.along 1) (gap.blank ' ') read rest := by
  rw [readSingle, if_pos (by rfl)] <;> simp

/-- Spaces in front of a further line belong to the indentation. -/
theorem readSingle_spaces (hBroken : gap.broken = true) (count : Nat) :
    readSingle mark gap read (spaces count ++ rest) =
      readSingle (mark.along count) gap read rest := by
  induction count generalizing mark with
  | zero => rfl
  | succ count ih =>
      show readSingle mark gap read (' ' :: (spaces count ++ rest)) = _
      rw [readSingle_space, Gap.blank, if_pos hBroken, ih, Mark.along_along, Nat.add_comm]

/-- A break ends the line, and is held back until it is known what follows. -/
theorem readSingle_break (hBreak : isBreak c = true) (hReturn : c ≠ '\r') :
    readSingle mark gap read (c :: rest) =
      readSingle (mark.nextLine 1) (gap.lineEnd (breakChar c)) read rest := by
  have hBlank : isBlank c = false := by
    rw [Bool.eq_false_iff]
    intro hBlank
    simp only [isBlank, Bool.or_eq_true, beq_iff_eq] at hBlank
    rcases hBlank with rfl | rfl <;> cases hBreak
  rw [readSingle, if_neg (by simp [hBlank]), if_pos hBreak]
  · rintro _ rfl
    exact absurd rfl hReturn
  · rintro _ rfl
    cases hBreak

/-- The characters that are neither blanks nor line ends. -/
theorem readSingle_char (hBlank : isBlank c = false) (hBreak : isBreak c = false)
    (hColumn : 0 < mark.column) :
    readSingle mark gap read (singleChar c ++ rest) =
      readSingle (mark.past (singleChar c)) .none (read ++ gap.text ++ [c]) rest := by
  by_cases hQuote : c = '\''
  · subst hQuote
    rw [singleChar, if_pos (by rfl), Mark.past_line _ (by simp [isBreak])]
    simp [readSingle]
  · have hSingle : singleChar c = [c] := if_neg (by simpa using hQuote)
    rw [hSingle, List.singleton_append, readSingle, if_neg (by simp [hBlank]),
      if_neg (by simp [hBreak]), if_neg (by simp [atDocumentBound_of_pos hColumn]),
      if_neg (by simpa using hQuote), Mark.past_along _ _ hBreak, Mark.past_nil]
    · rintro _ rfl
      exact absurd rfl (ne_return_of_not_isBreak hBreak)
    · rintro _ rfl
      exact absurd rfl hQuote

theorem isBreak_singleChar (hBreak : isBreak c = false) : ∀ d ∈ singleChar c, isBreak d = false := by
  rw [singleChar]
  split <;> simp [hBreak]
  rfl

theorem column_past_singleChar (hBreak : isBreak c = false) (hColumn : 0 < mark.column) :
    0 < (mark.past (singleChar c)).column := by
  rw [Mark.past_line mark (isBreak_singleChar hBreak)]
  exact Nat.add_pos_left hColumn _

/-- A quote that no other follows closes the scalar. -/
theorem readSingle_close (hRest : rest.head? ≠ some '\'') :
    readSingle mark gap read ('\'' :: rest) = some (read ++ gap.text, ⟨rest, mark.along 1⟩) := by
  rw [readSingle, if_neg (by simp [isBlank]), if_neg (by simp [isBreak]),
    if_neg (by simp [atDocumentBound]), if_pos (by rfl)]
  · simp
  · rintro _ _ rfl
    exact absurd rfl hRest

/-- What is written behind some characters of a text, of which the last may end a line. -/
def closing (indent : Nat) (fresh : Bool) (text : List Char) : List Char :=
  (if text.getLast?.elim fresh isBreak then spaces indent else []) ++ ['\'']

theorem closing_cons (indent : Nat) (fresh : Bool) (c : Char) (text : List Char) :
    closing indent fresh (c :: text) = closing indent (isBreak c) text := by
  cases text with
  | nil => rfl
  | cons d text => rw [closing, closing, List.getLast?_cons_cons, List.getLast?_cons]; rfl

/-- What is written in single quotes, line by line, with the quote that closes it. -/
theorem single_eq (indent : Nat) (text : List Char) :
    Render.single indent text =
      '\'' :: indentLines indent singleChar false text ++ closing indent false text := by
  show '\'' :: indentLines indent singleChar false text ++ _ ++ _ = _
  cases hLast : text.getLast? <;> simp [closing, hLast]

/-- The gap at hand reads as what was written, provided that a line end is not a line feed and that
blanks and line ends do not meet. -/
structure Gap.Fits (gap : Gap) (text : List Char) : Prop where
  first : gap.broken = true → gap.first ≠ ['\n']
  space : gap.broken = true → text.head? ≠ some ' '
  lineEnd : gap.broken = false → gap.blanks ≠ [] → text.head?.any isBreak = false

namespace Gap.Fits

/-- A break that is no line feed reads as itself. -/
theorem text_lineEnd (hGap : gap.Fits (c :: text)) (hBreak : isBreak c = true) (hFeed : c ≠ '\n') :
    (gap.lineEnd c).text = gap.text ++ [c] := by
  cases hBroken : gap.broken with
  | true => simp [Gap.lineEnd, Gap.text, hBroken, hGap.first hBroken]
  | false =>
      have hBlanks : gap.blanks = [] := by
        by_contra hBlanks
        simpa [hBreak] using hGap.lineEnd hBroken hBlanks
      simp [Gap.lineEnd, Gap.text, hBroken, hBlanks, hFeed]

/-- What was held back fits what goes on behind a break. -/
theorem after_lineEnd (hGap : gap.Fits (c :: text)) (hText : GoesOnQuoted (c :: text))
    (hBreak : isBreak c = true) (hFeed : c ≠ '\n') : (gap.lineEnd c).Fits text where
  first := by
    cases hBroken : gap.broken with
    | true => simpa [Gap.lineEnd, hBroken] using hGap.first hBroken
    | false => simpa [Gap.lineEnd, hBroken] using hFeed
  space := by
    cases text with
    | nil => simp
    | cons d text => simpa using fun _ => hasAdjacent_head hText.breakThenSpace hBreak
  lineEnd := by simp [Gap.lineEnd, apply_ite Gap.broken]

/-- What was held back fits what goes on behind a space. -/
theorem after_space (hBroken : gap.broken = false) (hText : GoesOnQuoted (' ' :: text)) :
    (gap.blank ' ').Fits text where
  first := by simp [Gap.blank, hBroken]
  space := by simp [Gap.blank, hBroken]
  lineEnd := by
    cases text with
    | nil => simp
    | cons d text => exact fun _ _ => hasAdjacent_head hText.spaceThenBreak rfl

theorem none : Gap.none.Fits text := ⟨by simp [Gap.none], by simp [Gap.none], by simp [Gap.none]⟩

end Gap.Fits

/-- What is written of one character, behind a line end if `fresh` says so. -/
def indentedChar (indent : Nat) (fresh : Bool) (c : Char) : List Char :=
  if isBreak c then [c] else (if fresh then spaces indent else []) ++ singleChar c

theorem indentLines_cons (indent : Nat) (fresh : Bool) (c : Char) (text : List Char) :
    indentLines indent singleChar fresh (c :: text) =
      indentedChar indent fresh c ++ indentLines indent singleChar (isBreak c) text := by
  rw [indentLines, indentedChar]
  split
  · next hBreak => rw [hBreak]; rfl
  · next hBreak => rw [Bool.eq_false_iff.mpr hBreak]

/-- One character, as it is written between single quotes. -/
theorem readSingle_indentedChar (read rest : List Char) (hText : GoesOnQuoted (c :: text))
    (hIndent : 0 < indent) (hColumn : gap.broken = false → 0 < mark.column)
    (hGap : gap.Fits (c :: text)) :
    ∃ gap' read', gap'.Fits text ∧ gap'.broken = isBreak c ∧
      (isBreak c = false → 0 < (mark.past (indentedChar indent gap.broken c)).column) ∧
      read' ++ gap'.text = read ++ gap.text ++ [c] ∧
      readSingle mark gap read (indentedChar indent gap.broken c ++ rest) =
        readSingle (mark.past (indentedChar indent gap.broken c)) gap' read' rest := by
  have hPrintable := hText.printable c List.mem_cons_self
  cases hBreak : isBreak c with
  | true =>
      have hFeed : c ≠ '\n' := fun hFeed => hText.noFeed (hFeed ▸ List.mem_cons_self)
      have hWritten : indentedChar indent gap.broken c = [c] := if_pos hBreak
      refine ⟨gap.lineEnd c, read, hGap.after_lineEnd hText hBreak hFeed,
        by simp [Gap.lineEnd, apply_ite Gap.broken], nofun, ?_, ?_⟩
      · rw [hGap.text_lineEnd hBreak hFeed, List.append_assoc]
      · rw [hWritten, Mark.past_break _ _ hBreak, Mark.past_nil, List.singleton_append,
          readSingle_break hBreak (ne_return_of_isPrintable hPrintable),
          breakChar_of_isPrintable hPrintable hBreak]
  | false =>
      cases hBroken : gap.broken with
      | true =>
          have hWritten : indentedChar indent true c = spaces indent ++ singleChar c := by
            simp [indentedChar, hBreak]
          have hBlank := isBlank_of_isPrintable hPrintable (by simpa using hGap.space hBroken)
          have hInside : 0 < (mark.along indent).column := by simp; omega
          refine ⟨.none, read ++ gap.text ++ [c], .none, rfl, fun _ => ?_,
            by simp [Gap.none, Gap.text], ?_⟩
          · rw [hWritten, Mark.past_append, Mark.past_spaces]
            exact column_past_singleChar hBreak hInside
          · rw [hWritten, List.append_assoc, readSingle_spaces hBroken,
              readSingle_char hBlank hBreak hInside, Mark.past_append, Mark.past_spaces]
      | false =>
          have hWritten : indentedChar indent false c = singleChar c := by
            simp [indentedChar, hBreak]
          have hInside := column_past_singleChar hBreak (hColumn hBroken)
          rw [hWritten]
          by_cases hSpace : c = ' '
          · subst hSpace
            refine ⟨gap.blank ' ', read, .after_space hBroken hText, by simp [Gap.blank, hBroken],
              fun _ => hInside, by simp [Gap.blank, Gap.text, hBroken], ?_⟩
            exact readSingle_space
          · refine ⟨.none, read ++ gap.text ++ [c], .none, rfl, fun _ => hInside,
              by simp [Gap.none, Gap.text], ?_⟩
            exact readSingle_char (isBlank_of_isPrintable hPrintable hSpace) hBreak (hColumn hBroken)

/-- What is written of a text between single quotes is read as the text. -/
theorem readSingle_text (hText : GoesOnQuoted text) (hIndent : 0 < indent)
    (hColumn : gap.broken = false → 0 < mark.column) (hGap : gap.Fits text)
    (hRest : rest.head? ≠ some '\'') :
    readSingle mark gap read
        (indentLines indent singleChar gap.broken text ++ (closing indent gap.broken text ++ rest)) =
      some (read ++ gap.text ++ text,
        ⟨rest, mark.past (indentLines indent singleChar gap.broken text ++
          closing indent gap.broken text)⟩) := by
  induction text generalizing mark gap read with
  | nil =>
      cases hBroken : gap.broken with
      | false => simp [indentLines, closing, readSingle_close hRest, Mark.past, isBreak]
      | true =>
          simp [indentLines, closing, readSingle_spaces hBroken, readSingle_close hRest,
            Mark.past_append, Mark.past_along, isBreak]
  | cons c text ih =>
      obtain ⟨gap', read', hGap', hBroken, hColumn', hRead, hHere⟩ :=
        readSingle_indentedChar read (indentLines indent singleChar (isBreak c) text ++
          (closing indent (isBreak c) text ++ rest)) hText hIndent hColumn hGap
      have hMore := @ih (mark.past (indentedChar indent gap.broken c)) gap' read' hText.tail
        (hBroken ▸ hColumn') hGap'
      rw [hBroken, hRead] at hMore
      rw [indentLines_cons, closing_cons, List.append_assoc, hHere, hMore]
      simp [Mark.past_append]

/-- A scalar in single quotes, from behind the first one. -/
theorem readSingle_single {mark : Mark} (hColumn : 0 < mark.column) (hText : GoesOnQuoted text)
    (hIndent : 0 < indent) {rest : List Char} (hRest : rest.head? ≠ some '\'') :
    readSingle mark .none [] ((Render.single indent text).tail ++ rest) =
      some (text, ⟨rest, mark.past (Render.single indent text).tail⟩) := by
  rw [single_eq, List.cons_append, List.tail_cons, List.append_assoc]
  exact @readSingle_text indent mark .none [] text rest hText hIndent (fun _ => hColumn) .none hRest

end Stencil.Yaml
