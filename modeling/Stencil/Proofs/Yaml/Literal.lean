import Stencil.Proofs.Text.Blank
import Stencil.Proofs.Yaml.Block

/-! A literal block is read back. The sign in its header tells what becomes of the line ends at its
end, and the digit how far its lines are indented, where they do not show it. -/

namespace Stencil.Yaml

open Render (spaces indentLines isPrintable chompingSign indentSign)

variable {indent column : Nat} {mark : Mark} {text rest : List Char} {c : Char}

/-- The sign of a chomping. -/
def Chomping.sign : Chomping → List Char
  | .strip => ['-']
  | .clip => []
  | .keep => ['+']

/-- The text of a block with what is kept behind it. -/
def Block.kept (block : Block) : Chomping → List Char
  | .strip => block.text
  | .clip => block.text ++ block.lineEnd
  | .keep => block.whole

/-- The line end that a text lacks. -/
def missingEnd (text : List Char) : List Char :=
  if text.getLast?.any isBreak then [] else ['\n']

theorem chompingSign_strip (front : List Char) (hLast : isBreak c = false) :
    chompingSign (front ++ [c]) = Chomping.strip.sign := by
  cases hFront : front.reverse <;> simp [chompingSign, hFront, hLast, Chomping.sign]

theorem chompingSign_clip (front : List Char) {lineEnd : Char} (hLast : isBreak c = false)
    (hEnd : isBreak lineEnd = true) :
    chompingSign (front ++ [c] ++ [lineEnd]) = Chomping.clip.sign := by
  simp [chompingSign, hLast, hEnd, Chomping.sign]

theorem chompingSign_keep (front : List Char) {lineEnd : Char} (hEnd : isBreak lineEnd = true)
    (hLast : ∀ c ∈ front.getLast?, isBreak c = true) :
    chompingSign (front ++ [lineEnd]) = Chomping.keep.sign := by
  cases hFront : front.reverse with
  | nil => simp [chompingSign, hFront, hEnd, Chomping.sign]
  | cons c back =>
      have hBreak : isBreak c = true := hLast c (by
        rw [← List.head?_reverse, hFront]
        rfl)
      simp [chompingSign, hFront, hEnd, hBreak, Chomping.sign]

/-- What stands in front of the line ends at the end of a text. -/
theorem eq_of_append_breaks {front front' back back' : List Char}
    (hSame : front ++ back = front' ++ back')
    (hBack : ∀ c ∈ back, isBreak c = true) (hBack' : ∀ c ∈ back', isBreak c = true)
    (hFront : ∀ c ∈ front.getLast?, isBreak c = false)
    (hFront' : ∀ c ∈ front'.getLast?, isBreak c = false) : front = front' := by
  have hCut : ∀ {front back : List Char}, (∀ c ∈ back, isBreak c = true) →
      (∀ c ∈ front.getLast?, isBreak c = false) →
      (front ++ back).reverse.dropWhile isBreak = front.reverse := by
    intro front back hBack hFront
    rw [List.reverse_append]
    exact Text.dropWhile_append_of_stop (by simpa using hBack) (by simpa using hFront)
  rw [← List.reverse_inj, ← hCut hBack hFront, ← hCut hBack' hFront', hSame]

namespace EndsLine

variable {block : Block}

theorem last (hBlock : EndsLine block) : ∀ c ∈ block.text.getLast?, isBreak c = false := by
  rcases hBlock.lines with ⟨hNone, -⟩ | ⟨front, last, lineEnd, hText, hLast, -⟩
  · simp [hNone]
  · simpa [hText] using hLast

theorem lineEnd (hBlock : EndsLine block) : ∀ c ∈ block.lineEnd, isBreak c = true := by
  rcases hBlock.lines with ⟨-, hNone⟩ | ⟨front, last, lineEnd, -, -, hOne, hEnd⟩
  · simp [hNone]
  · simpa [hOne] using hEnd

theorem breaks (hBlock : EndsLine block) :
    ∀ c ∈ block.lineEnd ++ block.emptyLines, isBreak c = true :=
  List.forall_mem_append.mpr ⟨hBlock.lineEnd, hBlock.emptyLines⟩

/-- A text that ends inside a line is what stands in front of all line ends. -/
theorem strip {front : List Char} (hBlock : EndsLine block) (hBreak : isBreak c = false)
    (hWhole : block.whole = front ++ [c] ++ ['\n']) :
    chompingSign (front ++ [c]) = Chomping.strip.sign ∧ block.kept .strip = front ++ [c] := by
  rw [Block.whole, List.append_assoc] at hWhole
  exact ⟨chompingSign_strip front hBreak, eq_of_append_breaks hWhole hBlock.breaks (by simp [isBreak])
    hBlock.last (by simpa using hBreak)⟩

theorem clip (hBlock : EndsLine block) (hText : text ≠ []) (hNone : block.emptyLines = [])
    (hWhole : block.whole = text) :
    chompingSign text = Chomping.clip.sign ∧ block.kept .clip = text := by
  refine ⟨?_, by simpa [Block.whole, Block.kept, hNone] using hWhole⟩
  rcases hBlock.lines with ⟨hLine, hLineEnd⟩ | ⟨front, last, lineEnd, hLine, hLast, hLineEnd, hEnd⟩
  · rw [← hWhole, Block.whole, hLine, hLineEnd, hNone] at hText
    exact absurd rfl hText
  · rw [← hWhole, Block.whole, hNone, hLine, hLineEnd, List.append_nil]
    exact chompingSign_clip front hLast hEnd

theorem keep {breaks : List Char} {lineEnd : Char} (hBlock : EndsLine block)
    (hEmpty : block.emptyLines = breaks ++ [lineEnd]) (hWhole : block.whole = text) :
    chompingSign text = Chomping.keep.sign ∧ block.kept .keep = text := by
  refine ⟨?_, hWhole⟩
  have hEnd : isBreak lineEnd = true := hBlock.emptyLines lineEnd (by simp [hEmpty])
  have hBehind : ∀ c ∈ block.lineEnd ++ breaks, isBreak c = true := fun c hMem =>
    hBlock.breaks c (by
      rw [hEmpty, ← List.append_assoc]
      exact List.mem_append_left _ hMem)
  rw [← hWhole, Block.whole, hEmpty, ← List.append_assoc, List.append_assoc block.text]
  refine chompingSign_keep _ hEnd fun c hLast => ?_
  rw [List.getLast?_append] at hLast
  cases hCase : (block.lineEnd ++ breaks).getLast? with
  | some d =>
      obtain rfl : d = c := by simpa [hCase] using hLast
      exact hBehind d (List.mem_of_getLast? hCase)
  | none =>
      -- Without an end of its own line a block has no line.
      have hNil := List.getLast?_eq_none_iff.mp hCase
      rcases hBlock.lines with ⟨hLine, -⟩ | ⟨-, -, lineEnd, -, -, hLineEnd, -⟩
      · simp [hCase, hLine] at hLast
      · simp [hLineEnd] at hNil

/-- The sign of a text asks for the text. -/
theorem exists_chomping (hBlock : EndsLine block) (hText : text ≠ [])
    (hWhole : block.whole = text ++ missingEnd text) :
    ∃ chomping, chompingSign text = Chomping.sign chomping ∧ block.kept chomping = text := by
  obtain ⟨front, c, rfl⟩ : ∃ front c, text = front ++ [c] :=
    ⟨_, _, (List.dropLast_concat_getLast hText).symm⟩
  cases hBreak : isBreak c with
  | false => exact ⟨.strip, hBlock.strip hBreak (by simpa [missingEnd, hBreak] using hWhole)⟩
  | true =>
      have hSame : block.whole = front ++ [c] := by simpa [missingEnd, hBreak] using hWhole
      rcases List.eq_nil_or_concat block.emptyLines with hNone | ⟨breaks, lineEnd, hEmpty⟩
      · exact ⟨.clip, hBlock.clip hText hNone hSame⟩
      · exact ⟨.keep, hBlock.keep (hEmpty.trans (List.concat_eq_append ..)) hSame⟩

end EndsLine

/-- A line end at the end of a text is written as it is. -/
theorem indentLines_missingEnd (fresh : Bool) :
    indentLines indent asItIs fresh (text ++ missingEnd text) =
      indentLines indent asItIs fresh text ++ missingEnd text := by
  have hEnd : ∀ (text : List Char) (fresh : Bool),
      indentLines indent asItIs fresh (text ++ ['\n']) =
        indentLines indent asItIs fresh text ++ ['\n'] := by
    intro text
    induction text with
    | nil => exact fun _ => rfl
    | cons c text ih =>
        intro fresh
        rw [List.cons_append, indentLines, indentLines, ih, ih]
        split <;> simp
  rw [missingEnd]
  split
  · simp
  · exact hEnd text fresh

theorem readHeader_signs (chomping : Chomping) (marked : Bool) (body : List Char) (mark : Mark) :
    ∃ after, after.column = 0 ∧
      readHeader ⟨(if marked then ['2'] else []) ++ chomping.sign ++ '\n' :: body, mark⟩ =
        some (chomping, if marked then 2 else 0, ⟨body, after⟩) := by
  cases chomping <;> cases marked <;> exact ⟨_, rfl, rfl⟩

theorem exists_sign (text : List Char) : ∃ chomping, chompingSign text = Chomping.sign chomping := by
  rw [chompingSign]
  split
  · exact ⟨.strip, rfl⟩
  · split
    · exact ⟨.keep, rfl⟩
    · exact ⟨.strip, rfl⟩
  · split_ifs
    · exact ⟨.strip, rfl⟩
    · exact ⟨.keep, rfl⟩
    · exact ⟨.clip, rfl⟩

theorem Chomping.sign_injective {chomping chomping' : Chomping}
    (hSame : chomping.sign = chomping'.sign) : chomping = chomping' := by
  cases chomping <;> cases chomping' <;> first | rfl | cases hSame

/-- What stands behind the header of a block is read as some lines. The header gives their
indentation, or else the first of them shows it. -/
def ReadsBody (column : Nat) (given : Bool) (body : Cursor) (whole rest : List Char) : Prop :=
  ∃ ends widest first,
    readEmptyLines (if given then column + 2 else 0) 0 [] body.mark body.text =
        some (ends, widest, first) ∧
      (given = false → widest = column + 2) ∧
      ReadsLines (column + 2) ⟨[], [], ends, false⟩ first whole rest

/-- A block is put together from its header and its lines. -/
theorem readBlock_of_readsBody {cursor body : Cursor} {chomping : Chomping} {given : Bool}
    {whole : List Char}
    (hHeader : readHeader cursor = some (chomping, if given then 2 else 0, body))
    (hBody : ReadsBody column given body whole rest) :
    ∃ block after, readBlock false column cursor = some (block.kept chomping, ⟨content rest, after⟩) ∧
      after.column = margin rest ∧ EndsLine block ∧ block.whole = whole := by
  obtain ⟨ends, widest, first, hEmpty, hWidest, block, after, hLines, hColumn, hBlock, hWhole⟩ :=
    hBody
  refine ⟨block, after, ?_, hColumn, hBlock, hWhole⟩
  have hKnown : (if (if given then 2 else 0) = 0 then 0 else (max (column : Int) 0).toNat +
      (if given then 2 else 0)) = if given then column + 2 else 0 := by
    cases given <;> simp
  have hIndent : (if (if given then column + 2 else 0) = 0 then
      max (max widest ((column : Int) + 1).toNat) 1 else if given then column + 2 else 0) =
        column + 2 := by
    cases given with
    | true => simp
    | false =>
        rw [hWidest rfl]
        simp
  rw [readBlock, hHeader]
  simp only [hKnown, hEmpty, hIndent, hLines]
  cases chomping <;> simp [Block.kept, Block.whole]

namespace ReadsBody

variable {breaks : List Char}

/-- Empty lines alone. -/
theorem of_breaks (hBreaks : ∀ c ∈ breaks, isBreak c = true ∧ isPrintable c = true)
    (hFollows : Follows column rest) (hStart : mark.column = 0) :
    ReadsBody column true ⟨breaks ++ rest, mark⟩ breaks rest := by
  have hMargin := hFollows.margin_le
  have hAfter := column_past_breaks hBreaks hStart
  obtain ⟨widest, hEmpty⟩ := readEmptyLines_end 0 hBreaks hStart hFollows
    (show column < column + 2 by omega)
  have hBlock : EndsLine ⟨[], [], breaks, false⟩ :=
    ⟨.inl ⟨rfl, rfl⟩, fun c hMem => (hBreaks c hMem).1⟩
  exact ⟨breaks, widest, _, hEmpty, nofun, .stop (by simp [hAfter]) (by omega) hBlock⟩

variable (hText : Lined (c :: text)) (hPrintable : ∀ d ∈ c :: text, isPrintable d = true)
  (hFollows : Follows column rest) (hStart : mark.column = 0)

include hText hPrintable hFollows hStart

/-- Lines of which the indentation is given, with empty ones in front of them. -/
theorem of_given (hBreaks : ∀ c ∈ breaks, isBreak c = true ∧ isPrintable c = true) :
    ReadsBody column true ⟨breaks ++ (indentLines (column + 2) asItIs true (c :: text) ++ rest), mark⟩
      (breaks ++ c :: text) rest := by
  have hFresh := hText.first c rfl
  have hEmpty := readEmptyLines_line 0 hBreaks hStart (show 0 < column + 2 by omega) hFresh
    (indentLines (column + 2) asItIs false text ++ rest)
  have hLines := readsLines_text ⟨[], [], breaks, false⟩ hText hPrintable hFollows
    (show column < column + 2 by omega)
    (show ((mark.past breaks).along (column + 2)).column = column + 2 by
      simp [column_past_breaks hBreaks hStart])
  rw [indentLines_char hFresh] at hLines
  rw [indentLines_fresh hFresh, List.append_assoc]
  exact ⟨breaks, _, _, hEmpty, nofun, hLines⟩

/-- Lines of which the first one shows their indentation. -/
theorem of_shown (hSpace : c ≠ ' ') :
    ReadsBody column false ⟨indentLines (column + 2) asItIs true (c :: text) ++ rest, mark⟩
      (c :: text) rest := by
  have hFresh := hText.first c rfl
  have hBlank := isBlank_of_isPrintable (hPrintable c List.mem_cons_self) hSpace
  have hColumn : (mark.along (column + 2)).column = column + 2 := by simp [hStart]
  have hEmpty : readEmptyLines 0 0 [] mark
      (spaces (column + 2) ++ c :: (indentLines (column + 2) asItIs false text ++ rest)) =
        some ([], column + 2, ⟨c :: (indentLines (column + 2) asItIs false text ++ rest),
          mark.along (column + 2)⟩) := by
    rw [readEmptyLines_spaces (.inl rfl), readEmptyLines_stop hFresh (.inr hBlank), hColumn]
    simp
  have hLines := readsLines_text ⟨[], [], [], false⟩ hText hPrintable hFollows
    (show column < column + 2 by omega) hColumn
  rw [indentLines_char hFresh] at hLines
  rw [indentLines_fresh hFresh, List.append_assoc]
  exact ⟨[], _, _, hEmpty, fun _ => rfl, hLines⟩

end ReadsBody

/-- The lines of a block, from behind its header. What would hide their indentation stands for an
indentation that is given. -/
theorem readsBody_text (hText : text ≠ []) (hPrintable : ∀ c ∈ text, isPrintable c = true)
    (hLast : ∀ c ∈ text.getLast?, isBreak c = true) (hFollows : Follows column rest)
    (hStart : mark.column = 0) :
    ReadsBody column (text.head?.any Render.isEdge)
      ⟨indentLines (column + 2) asItIs true text ++ rest, mark⟩ text rest := by
  obtain ⟨breaks, more, rfl, hBreaks, hMore⟩ := exists_stretch isBreak text
  have hEnds : ∀ c ∈ breaks, isBreak c = true ∧ isPrintable c = true := fun c hMem =>
    ⟨hBreaks c hMem, hPrintable c (List.mem_append_left _ hMem)⟩
  rw [indentLines_breaks hBreaks, List.append_assoc]
  cases more with
  | nil =>
      obtain ⟨c, breaks, rfl⟩ := List.exists_cons_of_ne_nil (by simpa using hText)
      have hEdge : ((c :: breaks ++ []).head?.any Render.isEdge) = true := by
        simp [Render.isEdge, hBreaks c List.mem_cons_self]
      rw [hEdge, List.append_nil]
      exact .of_breaks hEnds hFollows hStart
  | cons c more =>
      have hLined : Lined (c :: more) := ⟨by simp, hMore, fun d hMem => hLast d (by
        rw [List.getLast?_append, Option.mem_def.mp hMem]
        rfl)⟩
      have hBehind : ∀ d ∈ c :: more, isPrintable d = true := fun d hMem =>
        hPrintable d (List.mem_append_right _ hMem)
      cases hEdge : (breaks ++ c :: more).head?.any Render.isEdge with
      | true => exact .of_given hLined hBehind hFollows hStart hEnds
      | false =>
          have hNone : breaks = [] := by
            cases breaks with
            | nil => rfl
            | cons d breaks => simp [Render.isEdge, hBreaks d List.mem_cons_self] at hEdge
          subst hNone
          have hSpace : c ≠ ' ' := by
            rintro rfl
            cases hEdge
          exact .of_shown hLined hBehind hFollows hStart hSpace

theorem last_missingEnd (text : List Char) :
    ∀ c ∈ (text ++ missingEnd text).getLast?, isBreak c = true := by
  intro c hMem
  cases hBreak : text.getLast?.any isBreak with
  | true =>
      rw [missingEnd, if_pos hBreak, List.append_nil] at hMem
      simpa [Option.mem_def.mp hMem] using hBreak
  | false =>
      have hFeed : c = '\n' := by simpa [missingEnd, hBreak, eq_comm] using hMem
      rw [hFeed]
      rfl

theorem printable_missingEnd (text : List Char) : ∀ c ∈ missingEnd text, isPrintable c = true := by
  rw [missingEnd]
  split
  · exact List.forall_mem_nil _
  · exact List.forall_mem_singleton.mpr rfl

theorem head_missingEnd (hText : text ≠ []) : (text ++ missingEnd text).head? = text.head? := by
  obtain ⟨c, text, rfl⟩ := List.exists_cons_of_ne_nil hText
  rfl

theorem indentSign_eq (text : List Char) :
    indentSign text = if text.head?.any Render.isEdge then ['2'] else [] := rfl

theorem printable_of_allowsBlock (hBlock : Render.allowsBlock text = true) :
    ∀ c ∈ text, isPrintable c = true := by
  simp only [Render.allowsBlock, Bool.not_eq_true', Bool.or_eq_false_iff, List.any_eq_false,
    Bool.not_eq_false] at hBlock
  exact hBlock.1.1


/-- A literal block, from behind its first character. -/
theorem readBlock_literal (mark : Mark) (hBlock : Render.allowsBlock text = true) (hText : text ≠ [])
    (hFollows : Follows column rest) :
    ∃ after, after.column = margin rest ∧
      readBlock false column ⟨indentSign text ++ chompingSign text ++ '\n' ::
          (indentLines (column + 2) asItIs true (text ++ missingEnd text) ++ rest), mark⟩ =
        some (text, ⟨content rest, after⟩) := by
  have hPrintable : ∀ c ∈ text ++ missingEnd text, isPrintable c = true :=
    List.forall_mem_append.mpr ⟨printable_of_allowsBlock hBlock, printable_missingEnd text⟩
  obtain ⟨chomping, hSign⟩ := exists_sign text
  obtain ⟨start, hStart, hHeader⟩ := readHeader_signs chomping (text.head?.any Render.isEdge)
    (indentLines (column + 2) asItIs true (text ++ missingEnd text) ++ rest) mark
  have hBody := readsBody_text (by simp [hText]) hPrintable (last_missingEnd text) hFollows hStart
  rw [head_missingEnd hText] at hBody
  obtain ⟨block, after, hRead, hColumn, hEndsLine, hWhole⟩ := readBlock_of_readsBody hHeader hBody
  obtain ⟨chomping', hSign', hKept⟩ := hEndsLine.exists_chomping hText hWhole
  obtain rfl := Chomping.sign_injective (hSign.symm.trans hSign')
  refine ⟨after, hColumn, ?_⟩
  rw [indentSign_eq, hSign, hRead, hKept]

end Stencil.Yaml
