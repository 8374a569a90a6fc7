import Stencil.Proofs.Yaml.Allowed
import Stencil.Proofs.Yaml.Key
import Stencil.Settings.Render

/-! Blocks of lines: the entries of mappings and the items of sequences, each scanned as the tokens
of what it holds. Blocks are put together from these, one inside the other. -/

namespace Stencil.Yaml

open Render (style scalarLine isSimpleKey entry item spaces)
open Settings (heading)
open Point (Leads)

/-- The token of a scalar. -/
def scalarToken (text : List Char) : RawToken := .scalar text (isPlain text)

/-- Whatever its style, a scalar begins with a character that is not passed over. -/
theorem exists_solid (indent : Nat) (text : List Char) :
    ∃ c more, scalarLine indent text = c :: more ∧ more ≠ [] ∧
      ∀ rest, isSolid (c :: rest) = true := by
  rcases style_cases text with ⟨hStyle, hUnambiguous, hPlain⟩ | ⟨hStyle, -⟩ | hStyle | ⟨hStyle, -⟩
  · obtain ⟨c, more, rfl, hBegins⟩ := exists_beginsPlain hUnambiguous hPlain
    exact ⟨c, more ++ ['\n'], by rw [scalarLine, hStyle]; rfl, by simp, hBegins.solid⟩
  · exact ⟨'\'', _, by rw [scalarLine, hStyle]; rfl, by simp, fun _ => rfl⟩
  · exact ⟨'"', _, by rw [scalarLine, hStyle]; rfl, by simp, fun _ => rfl⟩
  · exact ⟨'|', _, by rw [scalarLine, hStyle]; rfl, by simp, fun _ => rfl⟩

theorem isSolid_scalarLine (indent : Nat) (text rest : List Char) :
    isSolid (scalarLine indent text ++ rest) = true := by
  obtain ⟨c, more, hText, -, hSolid⟩ := exists_solid indent text
  rw [hText]
  exact hSolid _

/-- The point where the content of the next line begins. -/
def Point.ofLines (lines : List Char) (tokens : List RawToken) (indent : Int) (outer : List Int) :
    Point := ⟨margin lines, content lines, tokens, indent, outer, true⟩

theorem Point.ofLines_spaces (column : Nat) {text : List Char} (hSolid : isSolid text = true)
    (tokens : List RawToken) (indent : Int) (outer : List Int) :
    ofLines (spaces column ++ text) tokens indent outer =
      ⟨column, text, tokens, indent, outer, true⟩ := by
  rw [ofLines, margin_spaces, content_spaces, margin_of_isSolid hSolid, content_of_isSolid hSolid,
    Nat.add_zero]

/-- The point behind a key and its value, where the next line begins. -/
def Point.added (point : Point) (rest : List Char) (added : List RawToken) : Point :=
  ⟨margin rest, content rest, added.reverse ++ point.tokens, point.indent, point.outer, true⟩

variable {column : Nat} {text lines rest key value : List Char} {added : List RawToken}
  {point : Point}

/-- A value on the line of its key. -/
theorem Point.Leads.inlineValue (hText : point.text = ' ' :: (scalarLine (column + 2) value ++ rest))
    (hIndent : point.indent = column) (hInside : column ≤ point.column)
    (hFollows : Follows column rest) :
    Leads point (point.added rest [scalarToken value]) := by
  have hSpace := Leads.space hText (isSolid_scalarLine _ _ _)
  exact hSpace.trans (.scalar column rfl hIndent (Nat.lt_succ_of_le hInside) hFollows)

theorem Point.indent_opened (hIndent : point.indent ≤ point.column) :
    point.opened.indent = point.column := by
  rw [opened]
  split_ifs
  · rfl
  · omega

/-- What stands of an entry behind the spaces it begins with. -/
def entryText (column : Nat) (key value : List Char) : List Char :=
  if isSimpleKey key then
    (scalarLine (column + 2) key).dropLast ++ ':' :: ' ' :: scalarLine (column + 2) value
  else
    '?' :: ' ' :: (scalarLine (column + 2) key ++
      (spaces column ++ ':' :: ' ' :: scalarLine (column + 2) value))

theorem entry_eq (column : Nat) (key value : List Char) :
    entry column key value = spaces column ++ entryText column key value := by
  rw [entry, entryText]
  split <;> simp [Render.indentStep]

theorem isSolid_entryText : isSolid (entryText column key value ++ rest) = true := by
  rw [entryText]
  split
  · obtain ⟨c, more, hText, hMore, hSolid⟩ := exists_solid (column + 2) key
    rw [hText, List.dropLast_cons_of_ne_nil hMore]
    exact hSolid _
  · rfl

theorem isAllowed_entryText (column : Nat) (key value : List Char) :
    ∀ c ∈ entryText column key value, isAllowed c = true := by
  have hKey := isAllowed_scalarLine (column + 2) key
  have hValue := isAllowed_scalarLine (column + 2) value
  rw [entryText]
  split
  · refine List.forall_mem_append.mpr ⟨fun c hMem => hKey c (List.dropLast_subset _ hMem), ?_⟩
    exact isAllowed_marks rfl rfl hValue
  · refine isAllowed_marks rfl rfl ?_
    refine List.forall_mem_append.mpr ⟨hKey, List.forall_mem_append.mpr ⟨isAllowed_spaces column, ?_⟩⟩
    exact isAllowed_marks rfl rfl hValue

/-- An entry of a mapping, in the style that its key asks for. -/
theorem Point.Leads.entry (hText : point.text = entryText column key value ++ rest)
    (hColumn : point.column = column) (hIndent : point.indent ≤ column)
    (hAllowed : point.keyAllowed = true) (hFollows : Follows column rest) :
    Leads point (point.opened.added rest [.key, scalarToken key, .value, scalarToken value]) := by
  have hOpened : point.opened.indent = column := hColumn ▸ indent_opened (hColumn ▸ hIndent)
  cases hSimple : isSimpleKey key with
  | true =>
      rw [entryText, if_pos hSimple, List.append_assoc] at hText
      obtain ⟨behind, hBehind, hKey⟩ := Leads.simpleKey hText (by omega) hSimple (hColumn ▸ hIndent)
        hAllowed rfl
      have hInside : column ≤ behind := by omega
      exact hKey.trans (.inlineValue rfl hOpened hInside hFollows)
  | false =>
      rw [entryText, if_neg (by simp [hSimple])] at hText
      simp only [List.cons_append, List.append_assoc] at hText
      have hNext : isSolid (':' :: ' ' :: (scalarLine (column + 2) value ++ rest)) = true := rfl
      have hSign := Leads.explicitKey hText (isSolid_scalarLine _ _ _) (hColumn ▸ hIndent) hAllowed
      have hKey := hSign.trans (.scalar column rfl hOpened
        (by show column < point.column + 2; omega) (.of_isSolid hNext))
      rw [margin_spaces, content_spaces, margin_of_isSolid hNext, content_of_isSolid hNext,
        Nat.add_zero] at hKey
      have hValue := hKey.trans (.explicitValue rfl (isSolid_scalarLine _ _ _) hOpened rfl)
      exact hValue.trans (.scalar column rfl hOpened (Nat.lt_add_of_pos_right Nat.two_pos) hFollows)

/-- A key whose value follows on the next lines. -/
theorem Point.Leads.heading (hText : point.text = key ++ ':' :: '\n' :: rest)
    (hPlain : style key = .plain) (hSimple : isSimpleKey key = true)
    (hIndent : point.indent ≤ point.column) (hAllowed : point.keyAllowed = true)
    (hSolid : isSolid (Yaml.content rest) = true) :
    Leads point (point.opened.added rest [.key, scalarToken key, .value]) := by
  have hLine : (scalarLine 1 key).dropLast = key := by rw [scalarLine, hPlain, List.dropLast_concat]
  obtain ⟨behind, -, hKey⟩ := Leads.simpleKey (hLine.symm ▸ hText) Nat.one_pos hSimple hIndent
    hAllowed rfl
  exact hKey.trans (.lineEnd rfl hSolid)

/-- A part of a block that has begun at a column, from the content of its first line on. -/
structure Part (column : Nat) (text : List Char) (added : List RawToken) : Prop where
  allowed : ∀ c ∈ text, isAllowed c = true
  solid : ∀ rest, isSolid (text ++ rest) = true
  leads : ∀ {point : Point} {rest : List Char}, point.text = text ++ rest → point.column = column →
    point.indent = column → point.keyAllowed = true → Follows column rest →
    Leads point (point.added rest added)

/-- A part of a mapping, which begins there if it has not begun. -/
structure Entry (column : Nat) (text : List Char) (added : List RawToken) : Prop where
  allowed : ∀ c ∈ text, isAllowed c = true
  solid : ∀ rest, isSolid (text ++ rest) = true
  leads : ∀ {point : Point} {rest : List Char}, point.text = text ++ rest → point.column = column →
    point.indent ≤ column → point.keyAllowed = true → Follows column rest →
    Leads point (point.opened.added rest added)

/-- Parts below each other, each on lines of its own. -/
inductive Stacked (Part : List Char → List RawToken → Prop) (column : Nat) :
    List Char → List RawToken → Prop
  | nil : Stacked Part column [] []
  | cons {text lines : List Char} {added more : List RawToken} (hPart : Part text added)
      (hMore : Stacked Part column lines more) :
      Stacked Part column (spaces column ++ text ++ lines) (added ++ more)

theorem Entry.part (hEntry : Entry column text added) : Part column text added := by
  refine ⟨hEntry.allowed, hEntry.solid, ?_⟩
  intro point rest hText hColumn hIndent hAllowed hFollows
  have hLeads := hEntry.leads hText hColumn (Int.le_of_eq hIndent) hAllowed hFollows
  rwa [Point.opened_of_eq (hIndent.trans (congrArg _ hColumn.symm))] at hLeads

namespace Stacked

variable {P Q : List Char → List RawToken → Prop} {lines' : List Char} {added' : List RawToken}

theorem imp (hImp : ∀ {text added}, P text added → Q text added)
    (hStacked : Stacked P column lines added) : Stacked Q column lines added := by
  induction hStacked with
  | nil => exact .nil
  | cons hPart _ ih => exact .cons (hImp hPart) ih

theorem append (hStacked : Stacked P column lines added)
    (hStacked' : Stacked P column lines' added') :
    Stacked P column (lines ++ lines') (added ++ added') := by
  induction hStacked with
  | nil => exact hStacked'
  | @cons text lines added more hPart _ ih =>
      rw [List.append_assoc, List.append_assoc added]
      exact .cons hPart ih

theorem single (hPart : P text added) : Stacked P column (spaces column ++ text) added := by
  have hNil : Stacked P column [] [] := .nil
  simpa using Stacked.cons hPart hNil

theorem allowed (hAllowed : ∀ {text added}, P text added → ∀ c ∈ text, isAllowed c = true)
    (hStacked : Stacked P column lines added) : ∀ c ∈ lines, isAllowed c = true := by
  induction hStacked with
  | nil => simp
  | cons hPart _ ih =>
      simp only [List.forall_mem_append]
      exact ⟨⟨isAllowed_spaces column, hAllowed hPart⟩, ih⟩

theorem exists_text (hSolid : ∀ {text added}, P text added → ∀ rest, isSolid (text ++ rest) = true)
    (hStacked : Stacked P column lines added) (hNonempty : lines ≠ []) :
    ∃ text, lines = spaces column ++ text ∧ ∀ rest, isSolid (text ++ rest) = true := by
  cases hStacked with
  | nil => exact absurd rfl hNonempty
  | cons hPart _ =>
      exact ⟨_, List.append_assoc _ _ _, fun rest => by
        rw [List.append_assoc]
        exact hSolid hPart _⟩

theorem eq_nil (hSolid : ∀ {text added}, P text added → ∀ rest, isSolid (text ++ rest) = true)
    (hStacked : Stacked P column [] added) : added = [] := by
  generalize hLines : [] = lines at hStacked
  cases hStacked with
  | nil => rfl
  | cons hPart _ =>
      have hText := (List.append_eq_nil_iff.mp (List.append_eq_nil_iff.mp hLines.symm).1).2
      have hBegins := hSolid hPart [' ']
      rw [hText] at hBegins
      cases hBegins

theorem follows (hSolid : ∀ {text added}, P text added → ∀ rest, isSolid (text ++ rest) = true)
    (hStacked : Stacked P column lines added) (hFollows : Follows column rest) :
    Follows column (lines ++ rest) := by
  cases hStacked with
  | nil => exact hFollows
  | cons hPart _ =>
      rw [List.append_assoc, List.append_assoc]
      exact .of_isSolid (hSolid hPart _)

/-- The parts of a block are scanned one after the other. -/
theorem leads (hStacked : Stacked (Part column) column lines added) (hFollows : Follows column rest)
    (tokens : List RawToken) (outer : List Int) :
    Leads (.ofLines (lines ++ rest) tokens column outer)
      (.ofLines rest (added.reverse ++ tokens) column outer) := by
  induction hStacked generalizing tokens with
  | nil => exact .refl _
  | @cons text lines added more hPart hMore ih =>
      have hBehind := hMore.follows Part.solid hFollows
      rw [List.append_assoc, List.append_assoc, Point.ofLines_spaces column (hPart.solid _)]
      refine (hPart.leads rfl rfl rfl rfl hBehind).trans ?_
      rw [List.reverse_append, List.append_assoc]
      exact ih (added.reverse ++ tokens)

/-- Entries begin a mapping further right than what they belong to. -/
theorem begins (hStacked : Stacked (Entry column) column lines added)
    (hNonempty : lines ≠ []) {indent : Int} (hIndent : indent < column)
    (hFollows : Follows column rest)
    (tokens : List RawToken) (outer : List Int) :
    Leads (.ofLines (lines ++ rest) tokens indent outer)
      (.ofLines rest (added.reverse ++ .blockMapping :: tokens) column (indent :: outer)) := by
  cases hStacked with
  | nil => exact absurd rfl hNonempty
  | @cons text lines added more hPart hMore =>
      have hBehind := hMore.follows Entry.solid hFollows
      rw [List.append_assoc, List.append_assoc, Point.ofLines_spaces column (hPart.solid _)]
      refine (hPart.leads rfl rfl (Int.le_of_lt hIndent) rfl hBehind).trans ?_
      rw [Point.opened_of_lt hIndent, List.reverse_append, List.append_assoc]
      exact (hMore.imp Entry.part).leads hFollows (added.reverse ++ .blockMapping :: tokens) _

/-- A mapping inside a block that begins further left. -/
theorem block {outside : Nat} (hStacked : Stacked (Entry column) column lines added)
    (hNonempty : lines ≠ []) (hOutside : outside < column) (hFollows : Follows outside rest)
    (tokens : List RawToken) (outer : List Int) :
    Leads (.ofLines (lines ++ rest) tokens outside outer)
      (.ofLines rest (.blockEnd :: added.reverse ++ .blockMapping :: tokens) outside outer) := by
  have hMargin := hFollows.margin_le
  refine (hStacked.begins hNonempty (by omega) (hFollows.mono hOutside.le) tokens outer).trans ?_
  exact .close rfl hFollows.solid (by show (margin rest : Int) < column; omega)

end Stacked

/-- A key and its value, both texts. -/
theorem Entry.ofTexts (column : Nat) (key value : List Char) :
    Entry column (entryText column key value)
      [.key, scalarToken key, .value, scalarToken value] where
  allowed := isAllowed_entryText column key value
  solid := fun _ => isSolid_entryText
  leads := Leads.entry

/-- An item that is a text. -/
theorem Part.ofText (column : Nat) (text : List Char) :
    Part column ('-' :: ' ' :: scalarLine (column + 2) text) [.item, scalarToken text] where
  allowed := isAllowed_marks rfl rfl (isAllowed_scalarLine _ _)
  solid := fun _ => rfl
  leads := by
    intro point rest hText hColumn hIndent hAllowed hFollows
    have hSign := Leads.item hText (isSolid_scalarLine _ _ _) (hColumn ▸ hIndent) hAllowed
    exact hSign.trans (.scalar column rfl hIndent (by show column < point.column + 2; omega) hFollows)

/-- An item that is a mapping, which begins on the line of its sign. -/
theorem Part.ofMapping (hStacked : Stacked (Entry (column + 2)) (column + 2) lines added)
    (hNonempty : lines ≠ []) :
    Part column ('-' :: ' ' :: lines.drop (column + 2))
      (.item :: .blockMapping :: added ++ [.blockEnd]) where
  allowed := isAllowed_marks rfl rfl fun c hMem =>
    hStacked.allowed Entry.allowed c (List.mem_of_mem_drop hMem)
  solid := fun _ => rfl
  leads := by
    intro point rest hText hColumn hIndent hAllowed hFollows
    have hBlock := hStacked.block hNonempty (by omega) hFollows (.item :: point.tokens) point.outer
    obtain ⟨text, hLines, hSolid⟩ := hStacked.exists_text Entry.solid hNonempty
    have hDrop : lines.drop (column + 2) = text := by
      rw [hLines]
      exact List.drop_left' List.length_replicate
    rw [hDrop] at hText
    rw [hLines, List.append_assoc, Point.ofLines_spaces _ (hSolid rest)] at hBlock
    have hSign := Leads.item hText (hSolid rest) (hColumn ▸ hIndent) hAllowed
    rw [hColumn, hIndent, hAllowed] at hSign
    simpa [Point.added, Point.ofLines, hIndent] using hSign.trans hBlock

theorem exists_beginsPlain_of_style (hPlain : style key = .plain) :
    ∃ c more, key = c :: more ∧ BeginsPlain c more := by
  rcases style_cases key with ⟨-, hUnambiguous, hAllowed⟩ | ⟨hStyle, -⟩ | hStyle | ⟨hStyle, -⟩
  · exact exists_beginsPlain hUnambiguous hAllowed
  all_goals
    rw [hPlain] at hStyle
    cases hStyle

theorem isAllowed_heading (hPlain : style key = .plain) (hLines : ∀ c ∈ lines, isAllowed c = true) :
    ∀ c ∈ key ++ ':' :: '\n' :: lines, isAllowed c = true := by
  have hKey := isAllowed_scalarLine 1 key
  rw [scalarLine, hPlain] at hKey
  refine List.forall_mem_append.mpr ⟨(List.forall_mem_append.mp hKey).1, ?_⟩
  exact isAllowed_marks rfl rfl hLines

section Heading

variable (hPlain : style key = .plain) (hSimple : isSimpleKey key = true)

include hPlain hSimple

/-- A key with a mapping below it, which begins further right. -/
theorem Entry.ofMapping {inner : Nat} (hStacked : Stacked (Entry inner) inner lines added)
    (hNonempty : lines ≠ []) (hInner : column < inner) :
    Entry column (key ++ ':' :: '\n' :: lines)
      (.key :: scalarToken key :: .value :: .blockMapping :: added ++ [.blockEnd]) where
  allowed := isAllowed_heading hPlain (hStacked.allowed Entry.allowed)
  solid := by
    obtain ⟨c, more, rfl, hBegins⟩ := exists_beginsPlain_of_style hPlain
    exact fun _ => hBegins.solid _
  leads := by
    intro point rest hText hColumn hIndent hAllowed hFollows
    have hBlock := hStacked.block hNonempty hInner hFollows
      (.value :: scalarToken key :: .key :: point.opened.tokens) point.opened.outer
    have hBehind := hStacked.follows Entry.solid (hFollows.mono hInner.le)
    have hOpened : point.opened.indent = column := hColumn ▸ Point.indent_opened (hColumn ▸ hIndent)
    have hHeading := Leads.heading (by simpa using hText) hPlain hSimple (hColumn ▸ hIndent) hAllowed
      hBehind.solid
    rw [Point.added, hOpened] at hHeading
    simpa [Point.added, Point.ofLines, hOpened] using hHeading.trans hBlock

/-- A key with a sequence below it, which begins no further right. -/
theorem Entry.ofItems (hStacked : Stacked (Part column) column lines added) :
    Entry column (key ++ ':' :: '\n' :: lines)
      (.key :: scalarToken key :: .value :: added) where
  allowed := isAllowed_heading hPlain (hStacked.allowed Part.allowed)
  solid := by
    obtain ⟨c, more, rfl, hBegins⟩ := exists_beginsPlain_of_style hPlain
    exact fun _ => hBegins.solid _
  leads := by
    intro point rest hText hColumn hIndent hAllowed hFollows
    have hItems := hStacked.leads hFollows
      (.value :: scalarToken key :: .key :: point.opened.tokens) point.opened.outer
    have hBehind := hStacked.follows Part.solid hFollows
    have hOpened : point.opened.indent = column := hColumn ▸ Point.indent_opened (hColumn ▸ hIndent)
    have hHeading := Leads.heading (by simpa using hText) hPlain hSimple (hColumn ▸ hIndent) hAllowed
      hBehind.solid
    rw [Point.added, hOpened] at hHeading
    simpa [Point.added, Point.ofLines, hOpened] using hHeading.trans hItems

end Heading

/-- A text of entries is scanned as a mapping of them. -/
theorem Stacked.scan? (hStacked : Stacked (Entry 0) 0 lines added) (hNonempty : lines ≠ []) :
    Yaml.scan? lines = some (.blockMapping :: added ++ [.blockEnd, .streamEnd]) := by
  have hBegins := hStacked.begins hNonempty (show (-1 : Int) < (0 : Nat) by omega) .nil [] []
  have hYields := hBegins _ (Point.yields_end rfl (Int.le_refl _) rfl (Int.le_refl _)) 0 0
  obtain ⟨text, hLines, hSolid⟩ := hStacked.exists_text Entry.solid hNonempty
  rw [hLines, List.append_assoc, Point.ofLines_spaces 0 (hSolid _)] at hYields
  have hStart : Scan.start lines = Point.scan ⟨0, text ++ [], [], -1, [], true⟩ 0 0 := by
    rw [hLines, List.append_nil]
    rfl
  rw [Yaml.scan?, if_pos (List.all_eq_true.mpr (hStacked.allowed Entry.allowed)), hStart, hYields]
  simp [Point.ofLines]

end Stencil.Yaml
