import Stencil.Proofs.Yaml.Double
import Stencil.Proofs.Yaml.Literal
import Stencil.Proofs.Yaml.Point

/-! A scalar is scanned as the text that it was written for, in whichever style that was, up to the
content of the next line. -/

namespace Stencil.Yaml

open Render (style scalarLine isAmbiguous allowsPlain allowsSingle allowsBlock spaces)

/-- The styles, with what lets a text be written in them. -/
theorem style_cases (text : List Char) :
    style text = .plain ∧ isAmbiguous text = false ∧ allowsPlain text = true ∨
      style text = .single ∧ allowsSingle text = true ∧ '\n' ∉ text ∨
      style text = .double ∨
      style text = .literal ∧ allowsBlock text = true ∧ '\n' ∈ text := by
  unfold style
  split_ifs with hFeed hBlock hPlain hSingle
  · exact .inr (.inr (.inr ⟨rfl, hBlock, by simpa using hFeed⟩))
  · exact .inr (.inr (.inl rfl))
  · exact .inl ⟨rfl, by simpa using hPlain⟩
  · exact .inr (.inl ⟨rfl, hSingle, by simpa using hFeed⟩)
  · exact .inr (.inr (.inl rfl))

/-- Whether a text is written plain. -/
def isPlain (text : List Char) : Bool := decide (style text = .plain)

/-- A text that is written plain is read as nothing else. -/
theorem not_reserved_of_isPlain {text : List Char} (hPlain : isPlain text = true) :
    Render.reserved.contains (String.ofList text) = false := by
  have hStyle : style text = .plain := by simpa [isPlain] using hPlain
  rcases style_cases text with ⟨-, hUnambiguous, -⟩ | ⟨hOther, -⟩ | hOther | ⟨hOther, -⟩
  · exact (Bool.or_eq_false_iff.mp hUnambiguous).1
  all_goals
    rw [hOther] at hStyle
    cases hStyle

theorem Mark.line_le_past (mark : Mark) (text : List Char) : mark.line ≤ (mark.past text).line := by
  induction text generalizing mark with
  | nil => exact Nat.le_refl _
  | cons c text ih =>
      cases hBreak : isBreak c with
      | true => exact (Nat.le_succ _).trans (mark.past_break text hBreak ▸ ih (mark.nextLine 1))
      | false => exact mark.past_along text hBreak ▸ ih (mark.along 1)

/-- Three marks do not come about across the end of a text. -/
theorem not_isPrefixOf_append {a : Char} {text rest : List Char}
    (hText : [a, a, a].isPrefixOf text = false) (hRest : rest.head? ≠ some a) :
    [a, a, a].isPrefixOf (text ++ rest) = false := by
  cases rest with
  | nil => rwa [List.append_nil]
  | cons e rest =>
      have hMark : a ≠ e := fun hSame => hRest (by rw [hSame]; rfl)
      rcases text with _ | ⟨b, _ | ⟨c, _ | ⟨d, text⟩⟩⟩
      · simp [List.isPrefixOf, hMark]
      · simp [List.isPrefixOf, hMark]
      · simp [List.isPrefixOf, hMark]
      · simpa [List.isPrefixOf] using hText

/-- How a plain scalar begins, whatever follows its text. -/
structure BeginsPlain (c : Char) (text : List Char) : Prop where
  solid : ∀ rest, isSolid (c :: rest) = true
  indicator : Render.isIndicator c = false
  sign : ∀ rest, c = '-' ∨ c = '?' ∨ c = ':' → atGap (text ++ rest) = false
  bound : ∀ rest mark, rest.head? ≠ some '-' → rest.head? ≠ some '.' →
    atDocumentBound (c :: (text ++ rest)) mark = false

theorem exists_beginsPlain {text : List Char} (hText : isAmbiguous text = false)
    (hPlain : allowsPlain text = true) : ∃ c more, text = c :: more ∧ BeginsPlain c more := by
  cases text with
  | nil => simp [isAmbiguous, Render.reserved] at hText
  | cons c more =>
      refine ⟨c, more, rfl, ?_⟩
      have hGoesOn := GoesOn.of_allowsPlain hPlain
      obtain ⟨hPrintable, hBreak⟩ := hGoesOn.within c List.mem_cons_self
      simp only [allowsPlain, Render.hasIndicators, Bool.not_eq_true', Bool.or_eq_false_iff,
        List.head?_cons, Option.any_some, List.tail_cons] at hPlain
      obtain ⟨⟨⟨-, hEdge⟩, -⟩, ⟨⟨⟨⟨⟨hDashes, hDots⟩, hIndicator⟩, hSign⟩, -⟩, -⟩, -⟩ :=
        hPlain
      constructor
      · intro rest
        have hSpace : c ≠ ' ' := by
          rintro rfl
          cases hEdge
        have hComment : c ≠ '#' := by
          rintro rfl
          cases hIndicator
        have hMark : c ≠ '\uFEFF' := by
          rintro rfl
          cases hPrintable
        simp [isSolid, isBlank_of_isPrintable hPrintable hSpace, hBreak, hComment, hMark]
      · exact hIndicator
      · intro rest hLone
        have hColon := hGoesOn.not_atGap rest
        cases more with
        | nil => rcases hLone with rfl | rfl | rfl <;> simp_all
        | cons d more =>
            rcases hLone with rfl | rfl | rfl
            · simpa [atGap] using (Bool.or_eq_false_iff.mp hSign).1
            · simpa [atGap] using (Bool.or_eq_false_iff.mp hSign).1
            · simpa using hColon
      · intro rest mark hDash hDot
        rw [← List.cons_append, atDocumentBound, not_isPrefixOf_append hDashes hDash,
          not_isPrefixOf_append hDots hDot]
        simp

namespace Point.Leads

variable {point : Point} {text more rest : List Char} {c : Char} {plain : Bool}

/-- A scalar that leaves a key behind is none once its line has ended. -/
theorem of_behind (hText : point.text = c :: more) (hSolid : isSolid point.text = true)
    (hIndent : point.indent < point.column) (hContent : isSolid (Yaml.content rest) = true)
    (hToken : ∀ index line, ∃ cursor keyAllowed mark,
      (point.scan index line).token? c more =
          some (point.behind index line cursor keyAllowed text plain) ∧
        cursor.text.length < point.text.length ∧
        (Yaml.content rest).length ≤ cursor.text.length ∧
        Scan.toNext false cursor keyAllowed = (⟨Yaml.content rest, mark⟩, true) ∧
        line < mark.line ∧ mark.column = margin rest) :
    Leads point { point with
      column := margin rest, text := Yaml.content rest, tokens := .scalar text plain :: point.tokens
      keyAllowed := true } := by
  intro found hYields index line
  obtain ⟨cursor, keyAllowed, mark, hAfter, hShorter, hLess, hNext, hLine, hColumn⟩ :=
    hToken index line
  have hStale : Scan.refresh? mark (point.savedKey index line) = some none := by
    rw [savedKey]
    split
    · have hNeeded : point.indent ≠ point.column := by omega
      simp [Scan.refresh?, Scan.isStale, hLine, hNeeded]
    · rfl
  have hNext' := Scan.toNext_of_isSolid ⟨mark.index, mark.line, margin rest⟩ true hContent
  rw [Scan.run_of_token? (settle?_scan hSolid (by omega) index line) hText hAfter hShorter]
  refine Scan.run_of_settle?_eq ?_ hLess (hYields mark.index mark.line)
  rw [Scan.settle?_of_toNext rfl hNext hStale, Scan.settle?_of_toNext rfl hNext' rfl, hColumn]
  simp [behind, Point.scan, ← hColumn]

/-- A scalar in quotes and the end of its line. -/
theorem of_quoted (hText : point.text = c :: more) (hSolid : isSolid point.text = true)
    (hIndent : point.indent < point.column) (hContent : isSolid (Yaml.content rest) = true)
    (hShorter : ('\n' :: rest).length < point.text.length)
    (hToken : ∀ index line, ∃ mark, line ≤ mark.line ∧
      (point.scan index line).token? c more =
        some (point.behind index line ⟨'\n' :: rest, mark⟩ false text plain)) :
    Leads point { point with
      column := margin rest, text := Yaml.content rest, tokens := .scalar text plain :: point.tokens
      keyAllowed := true } := by
  refine of_behind hText hSolid hIndent hContent fun index line => ?_
  obtain ⟨mark, hLine, hAfter⟩ := hToken index line
  refine ⟨_, _, _, hAfter, hShorter, ?_, Scan.toNext_lineEnd mark false hContent,
    Nat.lt_succ_of_le hLine, ?_⟩
  · exact (length_content_le rest).trans (Nat.le_succ _)
  · simp

section Styles

variable {column : Nat} (hText : point.text = scalarLine (column + 2) text ++ rest)
  (hIndent : point.indent = column) (hInside : column < point.column) (hFollows : Follows column rest)

include hText hIndent hInside hFollows

theorem plainScalar (hStyle : style text = .plain) (hUnambiguous : isAmbiguous text = false)
    (hPlain : allowsPlain text = true) :
    Leads point { point with
      column := margin rest, text := Yaml.content rest, tokens := .scalar text true :: point.tokens
      keyAllowed := true } := by
  obtain ⟨c, more, rfl, hBegins⟩ := exists_beginsPlain hUnambiguous hPlain
  have hWritten : point.text = c :: (more ++ '\n' :: rest) := by
    rw [hText, scalarLine, hStyle]
    simp
  have hInner : point.indent < point.column := by omega
  refine of_behind hWritten (hWritten ▸ hBegins.solid _) hInner hFollows.solid fun index line => ?_
  have hRead := readPlain_line ⟨index, line, point.column⟩ (GoesOn.of_allowsPlain hPlain) hInside.le
    hFollows
  have hNext := Scan.toNext_of_isSolid
    (Mark.past ⟨index, line, point.column⟩ (c :: more ++ '\n' :: spaces (margin rest))) true
    hFollows.solid
  have hShorter := length_content_le rest
  refine ⟨_, true, _, token?_plain hWritten (hBegins.solid _) hBegins.indicator
    (hBegins.sign _) (hBegins.bound _ _ (by simp) (by simp)) (by rwa [hIndent]), ?_, Nat.le_refl _,
    hNext, ?_, Mark.column_past_line _ _ _⟩
  · simp [hWritten]
    omega
  · rw [Mark.past_append, Mark.past_break _ _ rfl, Mark.past_spaces]
    exact Nat.lt_succ_of_le (Mark.line_le_past ⟨index, line, point.column⟩ (c :: more))

theorem singleScalar (hStyle : style text = .single) (hSingle : allowsSingle text = true)
    (hFeed : '\n' ∉ text) :
    Leads point { point with
      column := margin rest, text := Yaml.content rest, tokens := .scalar text false :: point.tokens
      keyAllowed := true } := by
  have hWritten : point.text = '\'' :: ((Render.single (column + 2) text).tail ++ '\n' :: rest) := by
    rw [hText, scalarLine, hStyle]
    simp [Render.single]
  have hInner : point.indent < point.column := by omega
  refine of_quoted hWritten (by rw [hWritten]; rfl) hInner hFollows.solid
    (by simp only [hWritten, List.length_cons, List.length_append]; omega) fun index line => ?_
  exact ⟨_, Mark.line_le_past ⟨index + 1, line, point.column + 1⟩ _, token?_single hWritten
    (readSingle_single (Nat.succ_pos _) (.of_allowsSingle hSingle hFeed) (by omega) (by simp))⟩

theorem doubleScalar (hStyle : style text = .double) :
    Leads point { point with
      column := margin rest, text := Yaml.content rest, tokens := .scalar text false :: point.tokens
      keyAllowed := true } := by
  have hWritten : point.text = '"' :: (text.flatMap Render.doubleChar ++ '"' :: '\n' :: rest) := by
    rw [hText, scalarLine, hStyle]
    simp [Render.double]
  have hInner : point.indent < point.column := by omega
  refine of_quoted hWritten (by rw [hWritten]; rfl) hInner hFollows.solid
    (by simp only [hWritten, List.length_cons, List.length_append]; omega) fun index line => ?_
  exact ⟨_, Nat.le_refl _,
    token?_double hWritten (readDouble_double (Nat.succ_pos _) text ('\n' :: rest))⟩

theorem literalScalar (hStyle : style text = .literal) (hBlock : allowsBlock text = true)
    (hFeed : '\n' ∈ text) :
    Leads point { point with
      column := margin rest, text := Yaml.content rest, tokens := .scalar text false :: point.tokens
      keyAllowed := true } := by
  have hWritten : point.text = '|' :: (Render.indentSign text ++ Render.chompingSign text ++ '\n' ::
      (Render.indentLines (column + 2) asItIs true (text ++ missingEnd text) ++ rest)) := by
    rw [hText, scalarLine, hStyle, indentLines_missingEnd]
    simp [Render.literal, missingEnd]
  have hShorter := length_content_le rest
  refine of_token? hWritten (by rw [hWritten]; rfl) (by omega)
    (by simp only [hWritten, List.length_cons, List.length_append]; omega) fun index line => ?_
  obtain ⟨mark, hColumn, hRead⟩ := readBlock_literal ⟨index + 1, line, point.column + 1⟩ hBlock
    (List.ne_nil_of_mem hFeed) hFollows
  refine ⟨mark.index, mark.line, ?_⟩
  rw [token?_literal hWritten (by rwa [hIndent]), ← hColumn]
  rfl

end Styles

/-- A scalar and the end of its line, inside a block that begins at `column`. -/
theorem scalar (column : Nat) (hText : point.text = scalarLine (column + 2) text ++ rest)
    (hIndent : point.indent = column) (hInside : column < point.column)
    (hFollows : Follows column rest) :
    Leads point { point with
      column := margin rest, text := Yaml.content rest
      tokens := .scalar text (isPlain text) :: point.tokens, keyAllowed := true } := by
  rcases style_cases text with ⟨hStyle, hUnambiguous, hPlain⟩ | ⟨hStyle, hSingle, hFeed⟩ | hStyle |
    ⟨hStyle, hBlock, hFeed⟩ <;> rw [isPlain, hStyle]
  · exact plainScalar hText hIndent hInside hFollows hStyle hUnambiguous hPlain
  · exact singleScalar hText hIndent hInside hFollows hStyle hSingle hFeed
  · exact doubleScalar hText hIndent hInside hFollows hStyle
  · exact literalScalar hText hIndent hInside hFollows hStyle hBlock hFeed

end Point.Leads

end Stencil.Yaml
