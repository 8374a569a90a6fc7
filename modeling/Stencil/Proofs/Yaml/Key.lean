import Stencil.Proofs.Yaml.Scalar

/-! A text that stands as a key on the line of its value is found to be one at the colon behind it.
What is written of it is short enough for the scan to remember where it began. -/

namespace Stencil.Yaml

open Render (style scalarLine isSimpleKey doubleChar hexCode indentLines)

variable {text : List Char}

/-- The length of what is written character by character, against the bytes of the text. -/
theorem length_flatMap_le {write : Char → List Char} {factor : Nat}
    (hWrite : ∀ c, (write c).length ≤ factor * c.utf8Size) (text : List Char) :
    (text.flatMap write).length ≤ factor * (String.ofList text).utf8ByteSize := by
  induction text with
  | nil => exact Nat.zero_le _
  | cons c text ih =>
      rw [List.flatMap_cons, List.length_append, String.ofList_cons, String.utf8ByteSize_append,
        String.utf8ByteSize_singleton, Nat.mul_add]
      exact Nat.add_le_add (hWrite c) ih

theorem two_le_utf8Size {c : Char} (hWide : 0xFFFF < c.toNat) : 2 ≤ c.utf8Size := by
  have hVal : 0xFFFF < c.val.toNat := hWide
  rw [Char.utf8Size]
  simp only [UInt32.le_iff_toNat_le]
  split_ifs <;> simp_all
  omega

theorem length_singleChar_le (c : Char) : (singleChar c).length ≤ 2 * c.utf8Size := by
  have hPos := c.utf8Size_pos
  rw [singleChar]
  split <;> simp <;> omega

theorem length_doubleChar_le (c : Char) : (doubleChar c).length ≤ 6 * c.utf8Size := by
  have hPos := c.utf8Size_pos
  have hScalar := toNat_lt c
  rw [doubleChar]
  split
  · simp
    omega
  · split_ifs with hPrintable hByte hShort
    · simp
      omega
    · rw [List.length_cons, List.length_cons, length_hexCode (by omega) (by omega)]
      omega
    · rw [List.length_cons, List.length_cons, length_hexCode (by omega) (by omega)]
      omega
    · have hTwo := two_le_utf8Size (Nat.lt_of_not_le hShort)
      rw [List.length_cons, List.length_cons, length_hexCode (by omega) (by omega)]
      omega

/-- Without line ends there is nothing to indent. -/
theorem single_of_line (indent : Nat) (hLine : ∀ c ∈ text, isBreak c = false) :
    Render.single indent text = '\'' :: (text.flatMap singleChar ++ ['\'']) := by
  have hInside : ∀ text : List Char, (∀ c ∈ text, isBreak c = false) →
      indentLines indent singleChar false text = text.flatMap singleChar := by
    intro text hLine
    induction text with
    | nil => rfl
    | cons c text ih =>
        obtain ⟨hBreak, hMore⟩ := List.forall_mem_cons.mp hLine
        rw [indentLines, if_neg (by simp [hBreak]), ih hMore, List.flatMap_cons]
        rfl
  have hClosing : closing indent false text = ['\''] := by
    cases hLast : text.getLast? with
    | none => simp [closing, hLast]
    | some c => simp [closing, hLast, hLine c (List.mem_of_getLast? hLast)]
  rw [single_eq, hInside text hLine, hClosing, List.cons_append]

namespace Point

variable {point : Point} {more rest : List Char} {c : Char} {plain : Bool}

/-- The colon behind a scalar makes a key of it. -/
theorem token?_colon {index line count : Nat} (hAllowed : point.keyAllowed = true)
    (hGap : atGap rest = true) :
    (point.behind index line ⟨':' :: rest, ⟨index + count, line, point.column + count⟩⟩ false text
        plain).token? ':' rest =
      some ({ point.opened with
        column := point.column + (count + 1), text := rest
        tokens := .value :: .scalar text plain :: .key :: point.opened.tokens
        keyAllowed := false }.scan (index + (count + 1)) line) := by
  have hBegin : (point.behind index line ⟨':' :: rest, ⟨index + count, line, point.column + count⟩⟩
      false text plain).token? ':' rest = (point.behind index line
        ⟨':' :: rest, ⟨index + count, line, point.column + count⟩⟩ false text plain).value? := by
    simp [Scan.token?, behind, atDocumentBound, hGap]
  rw [hBegin, Scan.value?]
  by_cases hOpens : point.indent < point.column <;>
    simp [behind, savedKey, hAllowed, Point.scan, Scan.insertAt, Scan.roll, Scan.inFlow, opened,
      hOpens, Scan.allowKey, Scan.take, Scan.push, Cursor.skip, Mark.along, Nat.add_assoc]

namespace Leads

/-- A scalar on one line with a colon behind it. -/
theorem of_key (count : Nat) (hText : point.text = c :: more) (hSolid : isSolid point.text = true)
    (hIndent : point.indent ≤ point.column) (hAllowed : point.keyAllowed = true)
    (hGap : atGap rest = true) (hCount : count ≤ 1024)
    (hShorter : rest.length + 1 < point.text.length)
    (hToken : ∀ index line, (point.scan index line).token? c more =
      some (point.behind index line ⟨':' :: rest, ⟨index + count, line, point.column + count⟩⟩ false
        text plain)) :
    Leads point { point.opened with
      column := point.column + (count + 1), text := rest
      tokens := .value :: .scalar text plain :: .key :: point.opened.tokens
      keyAllowed := false } := by
  refine of_run fun index line => ⟨index + (count + 1), line, ?_⟩
  rw [Scan.run_of_token? (settle?_scan hSolid hIndent index line) hText (hToken index line)
    (by simpa [behind, Point.scan] using hShorter)]
  have hFresh : Scan.refresh? ⟨index + count, line, point.column + count⟩
      (point.savedKey index line) = some (point.savedKey index line) := by
    rw [savedKey, if_pos hAllowed]
    simp [Scan.refresh?, Scan.isStale]
    omega
  have hSettle : (point.behind index line ⟨':' :: rest, ⟨index + count, line, point.column + count⟩⟩
      false text plain).settle? = some (point.behind index line
        ⟨':' :: rest, ⟨index + count, line, point.column + count⟩⟩ false text plain) := by
    refine Scan.settle?_self rfl rfl hFresh ?_
    show point.indent ≤ (point.column + count : Nat)
    omega
  refine Scan.run_of_token? hSettle rfl (token?_colon hAllowed hGap) ?_
  simp [behind, Point.scan]

/-- A scalar in quotes with a colon behind it. -/
theorem of_quotedKey (count : Nat) (hText : point.text = c :: more)
    (hSolid : isSolid point.text = true) (hIndent : point.indent ≤ point.column)
    (hAllowed : point.keyAllowed = true) (hGap : atGap rest = true) (hCount : count < 1024)
    (hShorter : rest.length + 1 < point.text.length)
    (hToken : ∀ index line, (point.scan index line).token? c more =
      some (point.behind index line
        ⟨':' :: rest, Mark.along ⟨index + 1, line, point.column + 1⟩ count⟩ false text plain)) :
    ∃ column, point.column < column ∧ Leads point { point.opened with
      column, text := rest
      tokens := .value :: .scalar text plain :: .key :: point.opened.tokens
      keyAllowed := false } := by
  refine ⟨point.column + (count + 1 + 1), by omega,
    of_key (count + 1) hText hSolid hIndent hAllowed hGap hCount hShorter fun index line => ?_⟩
  rw [hToken]
  simp [Mark.along, Nat.add_comm, Nat.add_left_comm]

section Styles

variable {inner : Nat} (hText : point.text = (scalarLine inner text).dropLast ++ ':' :: rest)
  (hBytes : (String.ofList text).utf8ByteSize ≤ 128) (hIndent : point.indent ≤ point.column)
  (hAllowed : point.keyAllowed = true) (hGap : atGap rest = true)

include hText hBytes hIndent hAllowed hGap

theorem plainKey (hLine : ∀ c ∈ text, isBreak c = false) (hStyle : style text = .plain)
    (hUnambiguous : Render.isAmbiguous text = false) (hPlain : Render.allowsPlain text = true) :
    ∃ column, point.column < column ∧ Leads point { point.opened with
      column, text := rest
      tokens := .value :: .scalar text true :: .key :: point.opened.tokens
      keyAllowed := false } := by
  obtain ⟨c, more, rfl, hBegins⟩ := exists_beginsPlain hUnambiguous hPlain
  have hWritten : point.text = c :: (more ++ ':' :: rest) := by
    rw [hText, scalarLine, hStyle]
    dsimp only
    rw [List.dropLast_concat]
    rfl
  have hLength : ((c :: more).flatMap fun c => [c]).length ≤ 1 * _ :=
    length_flatMap_le (fun c => by rw [Nat.one_mul]; exact c.utf8Size_pos) (c :: more)
  rw [List.flatMap_singleton'] at hLength
  refine ⟨_, ?_, of_key (c :: more).length hWritten (hWritten ▸ hBegins.solid _) hIndent
    hAllowed hGap (by omega)
    (by simp only [hWritten, List.length_cons, List.length_append]; omega) fun index line => ?_⟩
  · omega
  · have hRead := readPlain_key ⟨index, line, point.column⟩ (GoesOn.of_allowsPlain hPlain)
      (show point.indent + 1 ≤ (point.column : Int) + 1 by omega) hGap
    rw [Mark.past_line _ hLine] at hRead
    exact token?_plain hWritten (hBegins.solid _) hBegins.indicator (hBegins.sign _)
      (hBegins.bound _ _ (by simp) (by simp)) hRead

theorem singleKey (hLine : ∀ c ∈ text, isBreak c = false) (hInner : 0 < inner)
    (hStyle : style text = .single) (hSingle : Render.allowsSingle text = true)
    (hFeed : '\n' ∉ text) :
    ∃ column, point.column < column ∧ Leads point { point.opened with
      column, text := rest
      tokens := .value :: .scalar text false :: .key :: point.opened.tokens
      keyAllowed := false } := by
  have hSame := single_of_line inner hLine
  have hWritten : point.text = '\'' :: ((Render.single inner text).tail ++ ':' :: rest) := by
    rw [hText, scalarLine, hStyle]
    dsimp only
    rw [List.dropLast_concat, hSame]
    rfl
  have hLength := length_flatMap_le length_singleChar_le text
  have hTail : ∀ c ∈ (Render.single inner text).tail, isBreak c = false := by
    rw [hSame, List.tail_cons]
    intro c hMem
    rcases List.mem_append.mp hMem with hMem | hMem
    · obtain ⟨d, hText, hChar⟩ := List.mem_flatMap.mp hMem
      exact isBreak_singleChar (hLine d hText) c hChar
    · rw [List.mem_singleton.mp hMem]
      rfl
  refine of_quotedKey (Render.single inner text).tail.length hWritten (by rw [hWritten]; rfl) hIndent
    hAllowed hGap (by simp [hSame, -List.length_flatMap]; omega) (by simp [hWritten, hSame]; omega)
    fun index line => ?_
  have hColumn : 0 < (⟨index + 1, line, point.column + 1⟩ : Mark).column := Nat.succ_pos _
  have hRead : readSingle _ _ _ ((Render.single inner text).tail ++ ':' :: rest) = _ :=
    readSingle_single hColumn (.of_allowsSingle hSingle hFeed) hInner (by simp)
  rw [Mark.past_line _ hTail] at hRead
  exact token?_single hWritten hRead

theorem doubleKey (hStyle : style text = .double) :
    ∃ column, point.column < column ∧ Leads point { point.opened with
      column, text := rest
      tokens := .value :: .scalar text false :: .key :: point.opened.tokens
      keyAllowed := false } := by
  have hWritten : point.text = '"' :: (text.flatMap doubleChar ++ '"' :: ':' :: rest) := by
    rw [hText, scalarLine, hStyle]
    dsimp only
    rw [List.dropLast_concat, Render.double]
    simp
  have hLength := length_flatMap_le length_doubleChar_le text
  refine of_quotedKey (text.flatMap doubleChar ++ ['"']).length hWritten (by rw [hWritten]; rfl)
    hIndent hAllowed hGap (by simp [-List.length_flatMap]; omega) (by simp [hWritten]; omega)
    fun index line => ?_
  exact token?_double hWritten (readDouble_double (Nat.succ_pos _) text (':' :: rest))

end Styles

/-- A key with the colon behind it, in whichever style it is written. -/
theorem simpleKey {inner : Nat} (hText : point.text = (scalarLine inner text).dropLast ++ ':' :: rest)
    (hInner : 0 < inner) (hSimple : isSimpleKey text = true) (hIndent : point.indent ≤ point.column)
    (hAllowed : point.keyAllowed = true) (hGap : atGap rest = true) :
    ∃ column, point.column < column ∧ Leads point { point.opened with
      column, text := rest
      tokens := .value :: .scalar text (isPlain text) :: .key :: point.opened.tokens
      keyAllowed := false } := by
  simp only [isSimpleKey, Bool.and_eq_true, Bool.not_eq_true', List.any_eq_false, Bool.not_eq_true,
    decide_eq_true_eq] at hSimple
  obtain ⟨hLine, hBytes⟩ := hSimple
  rcases style_cases text with ⟨hStyle, hUnambiguous, hPlain⟩ | ⟨hStyle, hSingle, hFeed⟩ | hStyle |
    ⟨hStyle, -, hFeed⟩ <;> rw [isPlain, hStyle]
  · exact plainKey hText hBytes hIndent hAllowed hGap hLine hStyle hUnambiguous hPlain
  · exact singleKey hText hBytes hIndent hAllowed hGap hLine hInner hStyle hSingle hFeed
  · exact doubleKey hText hBytes hIndent hAllowed hGap hStyle
  · exact absurd (hLine _ hFeed) (by simp [isBreak])

end Leads

end Point

end Stencil.Yaml
