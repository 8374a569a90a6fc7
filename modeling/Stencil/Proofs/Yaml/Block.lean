import Stencil.Proofs.Text.Blank
import Stencil.Proofs.Yaml.Single

/-! A literal block is read back. Its text is cut into lines with the empty lines behind each; the
sign in its header tells what becomes of the line ends at its end. -/

namespace Stencil.Yaml

open Render (spaces indentLines isPrintable chompingSign indentSign)

variable {indent column widest : Nat} {mark : Mark} {ends text rest : List Char} {c : Char}

theorem not_isBlank_of_isBreak (hBreak : isBreak c = true) : c ≠ ' ' ∧ c ≠ '\t' := by
  constructor <;> rintro rfl <;> cases hBreak

section EmptyLines

/-- Line ends of empty lines, from the start of a line. -/
theorem readEmptyLines_breaks {breaks : List Char}
    (hBreaks : ∀ c ∈ breaks, isBreak c = true ∧ isPrintable c = true) (hColumn : mark.column = 0) :
    readEmptyLines indent widest ends mark (breaks ++ rest) =
      readEmptyLines indent widest (ends ++ breaks) (mark.past breaks) rest := by
  induction breaks generalizing mark ends with
  | nil => simp
  | cons c breaks ih =>
      obtain ⟨⟨hBreak, hPrintable⟩, hMore⟩ := List.forall_mem_cons.mp hBreaks
      obtain ⟨hSpace, hTab⟩ := not_isBlank_of_isBreak hBreak
      rw [List.cons_append, readEmptyLines, if_neg (by simp [hSpace]), if_neg (by simp [hTab]),
        if_pos hBreak, hColumn, Nat.max_zero, ih hMore (Mark.column_nextLine mark 1),
        breakChar_of_isPrintable hPrintable hBreak, Mark.past_break _ _ hBreak]
      · simp
      · rintro _ rfl
        cases hPrintable

theorem column_past_breaks {breaks : List Char}
    (hBreaks : ∀ c ∈ breaks, isBreak c = true ∧ isPrintable c = true) (hColumn : mark.column = 0) :
    (mark.past breaks).column = 0 := by
  induction breaks generalizing mark with
  | nil => exact hColumn
  | cons c breaks ih =>
      obtain ⟨⟨hBreak, -⟩, hMore⟩ := List.forall_mem_cons.mp hBreaks
      rw [Mark.past_break _ _ hBreak]
      exact ih hMore (Mark.column_nextLine mark 1)

/-- Spaces of the indentation. -/
theorem readEmptyLines_spaces {count : Nat}
    (hCount : indent = 0 ∨ mark.column + count ≤ indent) :
    readEmptyLines indent widest ends mark (spaces count ++ rest) =
      readEmptyLines indent widest ends (mark.along count) rest := by
  induction count generalizing mark with
  | zero => rfl
  | succ count ih =>
      show readEmptyLines indent widest ends mark (' ' :: (spaces count ++ rest)) = _
      have hHere : ((indent == 0 || decide (mark.column < indent)) && ' ' == ' ') = true := by
        simp
        omega
      have hMore : indent = 0 ∨ (mark.along 1).column + count ≤ indent := by simp; omega
      rw [readEmptyLines, if_pos hHere, ih hMore, Mark.along_along, Nat.add_comm]
      · simp

theorem readEmptyLines_stop (hBreak : isBreak c = false)
    (hStop : 0 < indent ∧ indent ≤ mark.column ∨ isBlank c = false) :
    readEmptyLines indent widest ends mark (c :: rest) =
      some (ends, max widest mark.column, ⟨c :: rest, mark⟩) := by
  have hPass : (indent == 0 || decide (mark.column < indent)) = false ∨ c ≠ ' ' ∧ c ≠ '\t' := by
    rcases hStop with ⟨hPos, hLe⟩ | hBlank
    · exact .inl (by simp [Nat.ne_of_gt hPos, hLe])
    · exact .inr (by simpa [isBlank] using hBlank)
  rw [readEmptyLines, if_neg (by rcases hPass with hPass | hPass <;> simp [hPass]),
    if_neg (by rcases hPass with hPass | hPass <;> simp [hPass]), if_neg (by simp [hBreak])]
  rintro _ rfl
  exact absurd rfl (ne_return_of_not_isBreak hBreak)

/-- Empty lines in front of a line of the block. -/
theorem readEmptyLines_line (widest : Nat) {breaks : List Char}
    (hBreaks : ∀ c ∈ breaks, isBreak c = true ∧ isPrintable c = true) (hColumn : mark.column = 0)
    (hIndent : 0 < indent) (hBreak : isBreak c = false) (rest : List Char) :
    readEmptyLines indent widest [] mark (breaks ++ (spaces indent ++ c :: rest)) =
      some (breaks, max widest indent, ⟨c :: rest, (mark.past breaks).along indent⟩) := by
  have hStart := column_past_breaks hBreaks hColumn
  rw [readEmptyLines_breaks hBreaks hColumn, readEmptyLines_spaces (by omega),
    readEmptyLines_stop hBreak (.inl ⟨hIndent, by simp⟩)]
  simp [hStart]

/-- Empty lines at the end of the block. -/
theorem readEmptyLines_end (widest : Nat) {breaks : List Char}
    (hBreaks : ∀ c ∈ breaks, isBreak c = true ∧ isPrintable c = true) (hColumn : mark.column = 0)
    (hFollows : Follows column rest) (hIndent : column < indent) :
    ∃ widest', readEmptyLines indent widest [] mark (breaks ++ rest) =
      some (breaks, widest', ⟨content rest, (mark.past breaks).along (margin rest)⟩) := by
  have hStart := column_past_breaks hBreaks hColumn
  have hMargin := hFollows.margin_le
  have hSolid := hFollows.solid
  have hRead : ∃ widest', readEmptyLines indent widest breaks (mark.past breaks)
      (spaces (margin rest) ++ content rest) =
        some (breaks, widest', ⟨content rest, (mark.past breaks).along (margin rest)⟩) := by
    rw [readEmptyLines_spaces (by omega)]
    cases hContent : content rest with
    | nil => exact ⟨_, by rw [readEmptyLines]⟩
    | cons c rest' =>
        rw [hContent] at hSolid
        obtain ⟨hBlank, hBreak, -, -⟩ := isSolid_cons hSolid
        exact ⟨_, readEmptyLines_stop hBreak (.inr hBlank)⟩
  rw [readEmptyLines_breaks hBreaks hColumn, List.nil_append]
  rwa [spaces_append_content] at hRead

end EmptyLines

/-- How a character is written in a block. -/
abbrev asItIs (c : Char) : List Char := [c]

theorem indentLines_line {line : List Char} (hLine : ∀ c ∈ line, isBreak c = false) :
    indentLines indent asItIs false (line ++ text) =
      line ++ indentLines indent asItIs false text := by
  induction line with
  | nil => rfl
  | cons c line ih =>
      obtain ⟨hBreak, hMore⟩ := List.forall_mem_cons.mp hLine
      rw [List.cons_append, indentLines, if_neg (by simp [hBreak]), ih hMore]
      rfl

theorem indentLines_breaks {breaks : List Char} (hBreaks : ∀ c ∈ breaks, isBreak c = true) :
    indentLines indent asItIs true (breaks ++ text) =
      breaks ++ indentLines indent asItIs true text := by
  induction breaks with
  | nil => rfl
  | cons c breaks ih =>
      obtain ⟨hBreak, hMore⟩ := List.forall_mem_cons.mp hBreaks
      rw [List.cons_append, indentLines, if_pos hBreak, ih hMore]
      rfl

theorem indentLines_char (hBreak : isBreak c = false) :
    indentLines indent asItIs false (c :: text) = c :: indentLines indent asItIs false text := by
  simp [indentLines, hBreak]

/-- A fresh line is indented. -/
theorem indentLines_fresh (hBreak : isBreak c = false) :
    indentLines indent asItIs true (c :: text) =
      spaces indent ++ c :: indentLines indent asItIs false text := by
  simp [indentLines, hBreak]

section Lines

variable {block : Block} {line : List Char} {lineEnd : Char} {breaks : List Char} {next : Cursor}

/-- One line of a block, with the empty lines behind it. -/
theorem readLines_line (hLine : ∀ c ∈ line, isBreak c = false)
    (hEnd : isBreak lineEnd = true ∧ isPrintable lineEnd = true) (hColumn : mark.column = indent)
    (hEmpty : readEmptyLines indent 0 [] ((mark.along line.length).nextLine 1) rest =
      some (breaks, widest, next)) (hShorter : next.text.length ≤ rest.length) :
    readLines false indent block ⟨line ++ lineEnd :: rest, mark⟩ =
      readLines false indent
        { block.addLine false line with lineEnd := [lineEnd], emptyLines := breaks } next := by
  obtain ⟨hBreak, hPrintable⟩ := hEnd
  have hTake : (line ++ lineEnd :: rest).takeWhile (fun c => !isBreak c) = line := by
    rw [List.takeWhile_append_of_pos (by simpa using hLine)]
    simp [hBreak]
  have hSkip : Cursor.skip ⟨line ++ lineEnd :: rest, mark⟩ line.length =
      ⟨lineEnd :: rest, mark.along line.length⟩ := by simp [Cursor.skip]
  rw [readLines, if_pos (by simp [hColumn]), hTake]
  simp only [hSkip, Cursor.lineEnd?_break hBreak (ne_return_of_isPrintable hPrintable), hEmpty]
  rw [dif_pos (by simp; omega), breakChar_of_isPrintable hPrintable hBreak]

theorem readLines_stop (hColumn : mark.column ≠ indent) :
    readLines false indent block ⟨rest, mark⟩ = some (block, ⟨rest, mark⟩) := by
  rw [readLines, if_neg (by simp [hColumn])]

theorem exists_stretch (p : Char → Bool) (text : List Char) :
    ∃ front back, text = front ++ back ∧ (∀ c ∈ front, p c = true) ∧
      ∀ c ∈ back.head?, p c = false := by
  refine ⟨text.takeWhile p, text.dropWhile p, List.takeWhile_append_dropWhile.symm,
    fun c => List.mem_takeWhile_imp, fun c hMem => ?_⟩
  have hStop := List.head?_dropWhile_not p text
  rw [Option.mem_def.mp hMem] at hStop
  exact hStop

/-- A text of which each line is ended and the first one is not empty. -/
structure Lined (text : List Char) : Prop where
  nonempty : text ≠ []
  first : ∀ c ∈ text.head?, isBreak c = false
  last : ∀ c ∈ text.getLast?, isBreak c = true

/-- The first line of a text, its end, and the empty lines behind it. -/
theorem Lined.exists_line (hText : Lined text) : ∃ line lineEnd breaks more,
    text = line ++ lineEnd :: (breaks ++ more) ∧ line ≠ [] ∧ (∀ c ∈ line, isBreak c = false) ∧
      isBreak lineEnd = true ∧ (∀ c ∈ breaks, isBreak c = true) ∧ (more = [] ∨ Lined more) := by
  obtain ⟨line, back, rfl, hLine, hBack⟩ := exists_stretch (fun c => !isBreak c) text
  simp only [Bool.not_eq_true', Bool.not_eq_false'] at hLine hBack
  cases back with
  | nil =>
      rw [List.append_nil] at hText
      have hLast := hText.last _ (List.getLast?_eq_some_getLast hText.nonempty)
      simp [hLine _ (List.getLast_mem hText.nonempty)] at hLast
  | cons lineEnd back =>
      obtain ⟨breaks, more, rfl, hBreaks, hMore⟩ := exists_stretch isBreak back
      have hEnd : isBreak lineEnd = true := hBack lineEnd rfl
      refine ⟨line, lineEnd, breaks, more, rfl, ?_, hLine, hEnd, hBreaks, ?_⟩
      · rintro rfl
        have hFirst := hText.first lineEnd rfl
        simp [hEnd] at hFirst
      · refine or_iff_not_imp_left.mpr fun hNonempty => ⟨hNonempty, hMore, fun c hMem => ?_⟩
        apply hText.last
        have hSplit : line ++ lineEnd :: (breaks ++ more) = (line ++ lineEnd :: breaks) ++ more := by
          simp
        rw [hSplit, List.getLast?_append, Option.mem_def.mp hMem]
        rfl

/-- All that a block has been read from. -/
def Block.whole (block : Block) : List Char :=
  block.text ++ block.lineEnd ++ block.emptyLines

/-- A block that has no line, or whose last line is ended. -/
structure EndsLine (block : Block) : Prop where
  lines : block.text = [] ∧ block.lineEnd = [] ∨
    ∃ front last lineEnd, block.text = front ++ [last] ∧ isBreak last = false ∧
      block.lineEnd = [lineEnd] ∧ isBreak lineEnd = true
  emptyLines : ∀ c ∈ block.emptyLines, isBreak c = true

/-- Lines that a block is read on from, up to the content of a line that begins left of them. -/
def ReadsLines (indent : Nat) (block : Block) (cursor : Cursor) (whole rest : List Char) : Prop :=
  ∃ block' after, readLines false indent block cursor = some (block', ⟨content rest, after⟩) ∧
    after.column = margin rest ∧ EndsLine block' ∧ block'.whole = whole

/-- Behind a line and the empty lines after it. -/
def Block.withLine (block : Block) (line : List Char) (lineEnd : Char) (breaks : List Char) : Block :=
  { block.addLine false line with lineEnd := [lineEnd], emptyLines := breaks }

@[simp] theorem Block.whole_withLine :
    (block.withLine line lineEnd breaks).whole = block.whole ++ (line ++ lineEnd :: breaks) := by
  simp [whole, withLine, addLine]

theorem endsLine_withLine (hNonempty : line ≠ []) (hLine : ∀ c ∈ line, isBreak c = false)
    (hEnd : isBreak lineEnd = true) (hBreaks : ∀ c ∈ breaks, isBreak c = true) :
    EndsLine (block.withLine line lineEnd breaks) where
  lines := by
    refine .inr ⟨block.whole ++ line.dropLast, line.getLast hNonempty, lineEnd, ?_,
      hLine _ (List.getLast_mem hNonempty), rfl, hEnd⟩
    rw [List.append_assoc, List.dropLast_concat_getLast]
    simp [Block.withLine, Block.whole, Block.addLine]
  emptyLines := hBreaks

namespace ReadsLines

variable {whole : List Char}

/-- Left of the lines, nothing is read. -/
theorem stop (hColumn : mark.column = margin rest) (hLeft : margin rest < indent)
    (hBlock : EndsLine block) : ReadsLines indent block ⟨content rest, mark⟩ block.whole rest :=
  ⟨block, mark, readLines_stop (by omega), hColumn, hBlock, rfl⟩

theorem addLine (hLine : ∀ c ∈ line, isBreak c = false)
    (hEnd : isBreak lineEnd = true ∧ isPrintable lineEnd = true) (hColumn : mark.column = indent)
    (hEmpty : readEmptyLines indent 0 [] ((mark.along line.length).nextLine 1) text =
      some (breaks, widest, next)) (hShorter : next.text.length ≤ text.length)
    (hMore : ReadsLines indent (block.withLine line lineEnd breaks) next whole rest) :
    ReadsLines indent block ⟨line ++ lineEnd :: text, mark⟩ whole rest := by
  rw [ReadsLines, readLines_line hLine hEnd hColumn hEmpty hShorter]
  exact hMore

end ReadsLines

/-- The lines of a text are read up to a line that begins left of them. -/
theorem readsLines_text (block : Block) (hText : Lined text)
    (hPrintable : ∀ c ∈ text, isPrintable c = true) (hFollows : Follows column rest)
    (hIndent : column < indent) (hColumn : mark.column = indent) :
    ReadsLines indent block ⟨indentLines indent asItIs false text ++ rest, mark⟩
      (block.whole ++ text) rest := by
  induction hLength : text.length using Nat.strongRecOn generalizing text mark block with
  | ind length ih =>
      obtain ⟨line, lineEnd, breaks, more, rfl, hNonempty, hLine, hEnd, hBreaks, hMore⟩ :=
        hText.exists_line
      have hEnds : ∀ c ∈ breaks, isBreak c = true ∧ isPrintable c = true := fun c hMem =>
        ⟨hBreaks c hMem, hPrintable c (by simp [hMem])⟩
      have hLineEnd : isBreak lineEnd = true ∧ isPrintable lineEnd = true :=
        ⟨hEnd, hPrintable lineEnd (by simp)⟩
      have hWritten : indentLines indent asItIs false (line ++ lineEnd :: (breaks ++ more)) ++ rest =
          line ++ lineEnd :: (breaks ++ (indentLines indent asItIs true more ++ rest)) := by
        rw [indentLines_line hLine, indentLines, if_pos hEnd, indentLines_breaks hBreaks]
        simp
      have hNext : ((mark.along line.length).nextLine 1).column = 0 := rfl
      have hStart := column_past_breaks hEnds hNext
      rw [hWritten]
      rcases hMore with rfl | hMore
      · have hMargin := hFollows.margin_le
        have hShorter := length_content_le rest
        obtain ⟨widest, hEmpty⟩ := readEmptyLines_end 0 hEnds hNext hFollows hIndent
        rw [List.append_nil, ← Block.whole_withLine]
        refine .addLine hLine hLineEnd hColumn hEmpty (by simp [indentLines]; omega) ?_
        exact .stop (by simp [hStart]) (by omega) (endsLine_withLine hNonempty hLine hEnd hBreaks)
      · obtain ⟨c, more, rfl⟩ := List.exists_cons_of_ne_nil hMore.nonempty
        have hFresh := hMore.first c rfl
        have hInner : 0 < indent := by omega
        have hEmpty := readEmptyLines_line 0 hEnds hNext hInner hFresh
          (indentLines indent asItIs false more ++ rest)
        have hLess : (c :: more).length < length := by
          rw [← hLength]
          simp
          omega
        have hBehind : ∀ d ∈ c :: more, isPrintable d = true := fun d hMem => hPrintable d
          (List.mem_append_right _ (List.mem_cons_of_mem _ (List.mem_append_right _ hMem)))
        have hLines := @ih _ hLess
          ((((mark.along line.length).nextLine 1).past breaks).along indent) _
          (block.withLine line lineEnd breaks) hMore hBehind (by simp [hStart]) rfl
        rw [Block.whole_withLine, indentLines_char hFresh] at hLines
        rw [indentLines_fresh hFresh, List.append_assoc, List.cons_append]
        refine .addLine hLine hLineEnd hColumn hEmpty (by simp; omega) ?_
        simpa using hLines

end Lines

end Stencil.Yaml
