import Stencil.Proofs.Yaml.Lines
import Stencil.Proofs.Yaml.Node

/-! Lines that are read as the nodes they were written for, and the document they make. -/

namespace Stencil.Yaml

open Render (style isSimpleKey entry item)
open Settings (heading)

/-- Lines of a block at a column that are read as nodes. -/
def Reads {α : Type} (part : List Char → List RawToken → Prop)
    (spells : List NumberedToken → List α → Prop) (column : Nat) (lines : List Char)
    (nodes : List α) : Prop :=
  ∃ added, Stacked part column lines added ∧ (∀ token ∈ added, token.isNamed = false) ∧
    spells (added.map (·.withNumber 0)) nodes

namespace Reads

variable {α β : Type} {part : List Char → List RawToken → Prop}
  {spells : List NumberedToken → List α → Prop} {column : Nat} {lines lines' : List Char}
  {nodes nodes' : List α}

theorem nil (hNil : spells [] []) : Reads part spells column [] [] := ⟨[], .nil, by simp, hNil⟩

/-- Lines of one kind read one after the other, as what they spell can be put together. -/
theorem append (hAppend : ∀ {tokens tokens' nodes nodes'}, spells tokens nodes →
      spells tokens' nodes' → spells (tokens ++ tokens') (nodes ++ nodes'))
    (hLines : Reads part spells column lines nodes)
    (hLines' : Reads part spells column lines' nodes') :
    Reads part spells column (lines ++ lines') (nodes ++ nodes') := by
  obtain ⟨added, hStacked, hUnnamed, hSpells⟩ := hLines
  obtain ⟨added', hStacked', hUnnamed', hSpells'⟩ := hLines'
  refine ⟨added ++ added', hStacked.append hStacked',
    List.forall_mem_append.mpr ⟨hUnnamed, hUnnamed'⟩, ?_⟩
  rw [List.map_append]
  exact hAppend hSpells hSpells'

/-- Lines written for each of some things read as the nodes of these, in order. -/
theorem flatMap (hNil : spells [] []) (hAppend : ∀ {tokens tokens' nodes nodes'},
      spells tokens nodes → spells tokens' nodes' → spells (tokens ++ tokens') (nodes ++ nodes'))
    {write : β → List Char} {node : β → α} (hWrite : ∀ x, Reads part spells column (write x) [node x])
    (xs : List β) : Reads part spells column (xs.flatMap write) (xs.map node) := by
  induction xs with
  | nil => exact nil hNil
  | cons x xs ih => exact append hAppend (hWrite x) ih

end Reads

/-- Lines that are read as entries of a mapping. -/
abbrev ReadsEntries (column : Nat) : List Char → List (Node × Node) → Prop :=
  Reads (Entry column) Node.SpellsEntries column

/-- Lines that are read as items of a sequence. -/
abbrev ReadsItems (column : Nat) : List Char → List Node → Prop :=
  Reads (Part column) Node.SpellsItems column

/-- The node of a text. -/
def textNode (text : String) : Node := .scalar none none text (isPlain text.toList)

theorem spells_textNode (text : String) :
    Node.Spells [(scalarToken text.toList).withNumber 0] (textNode text) := by
  have hSpells := Node.Spells.scalar text.toList (isPlain text.toList)
  rwa [String.ofList_toList] at hSpells

variable {column : Nat} {lines : List Char}

theorem heading_append (column : Nat) (key : String) (lines : List Char) :
    heading column key ++ lines =
      Render.spaces column ++ (key.toList ++ ':' :: '\n' :: lines) := by
  simp [heading]

namespace ReadsEntries

variable {entries : List (Node × Node)} {items : List Node}

theorem ne_nil (hLines : ReadsEntries column lines entries) (hNonempty : entries ≠ []) :
    lines ≠ [] := by
  obtain ⟨added, hStacked, -, hSpells⟩ := hLines
  rintro rfl
  rw [hStacked.eq_nil Entry.solid] at hSpells
  cases hSpells
  exact hNonempty rfl

/-- A key and its text on lines of their own are an entry. -/
theorem ofTexts (column : Nat) (key value : String) :
    ReadsEntries column (entry column key.toList value.toList) [(textNode key, textNode value)] := by
  rw [entry_eq]
  refine ⟨_, .single (.ofTexts column key.toList value.toList),
    by simp [scalarToken, Token.isNamed], ?_⟩
  exact .single (spells_textNode key) (spells_textNode value).spellsValue

section Heading

variable {key : String} (hPlain : style key.toList = .plain) (hSimple : isSimpleKey key.toList = true)

include hPlain hSimple

/-- A heading with entries that are indented more is an entry with a mapping. -/
theorem ofMapping {inner : Nat} (hLines : ReadsEntries inner lines entries) (hNonempty : entries ≠ [])
    (hInner : column < inner) :
    ReadsEntries column (heading column key ++ lines) [(textNode key, .mapping none entries)] := by
  have hText := hLines.ne_nil hNonempty
  obtain ⟨added, hStacked, hUnnamed, hSpells⟩ := hLines
  rw [heading_append]
  refine ⟨_, .single (.ofMapping hPlain hSimple hStacked hText hInner), ?_, ?_⟩
  · simpa [scalarToken, Token.isNamed, or_imp, forall_and] using hUnnamed
  · have hEntry := Node.SpellsEntries.single (spells_textNode key)
      (Node.Spells.mapping hSpells).spellsValue
    simpa [Token.withNumber] using hEntry

/-- A heading with items is an entry with a sequence. Items may stand at the heading's own column,
as their dashes set them off. -/
theorem ofItems (hLines : ReadsItems column lines items) (hNonempty : items ≠ []) :
    ReadsEntries column (heading column key ++ lines) [(textNode key, .sequence none items)] := by
  obtain ⟨added, hStacked, hUnnamed, hSpells⟩ := hLines
  rw [heading_append]
  refine ⟨_, .single (.ofItems hPlain hSimple hStacked), ?_, ?_⟩
  · simpa [scalarToken, Token.isNamed] using hUnnamed
  · exact .single (spells_textNode key) (.sequence hSpells hNonempty)

end Heading

/-- Entries alone make a document. -/
theorem parse (hLines : ReadsEntries 0 lines entries) (hNonempty : lines ≠ []) :
    Document.parse (String.ofList lines) = some (.ofRoot (.mapping none entries)) := by
  obtain ⟨added, hStacked, hUnnamed, hSpells⟩ := hLines
  have hNumber := numberAnchors_of_unnamed .empty
    (show ∀ token ∈ .blockMapping :: added ++ [.blockEnd, .streamEnd], token.isNamed = false by
      simpa [Token.isNamed, or_imp, forall_and] using hUnnamed)
  rw [Document.parse, String.toList_ofList, hStacked.scan? hNonempty, Option.bind_some, hNumber,
    Option.bind_some]
  simpa [Token.withNumber] using Document.ofTokens?_mapping hSpells

end ReadsEntries

namespace ReadsItems

theorem ofText (column : Nat) (text : String) :
    ReadsItems column (item column text.toList) [textNode text] := by
  have hItem : item column text.toList = Render.spaces column ++
      ('-' :: ' ' :: Render.scalarLine (column + 2) text.toList) := by
    simp [item, Render.indentStep]
  rw [hItem]
  refine ⟨_, .single (.ofText column text.toList), by simp [scalarToken, Token.isNamed], ?_⟩
  simpa [Token.withNumber] using Node.SpellsItems.cons (spells_textNode text) .nil

/-- Entries behind a dash are an item with a mapping. The dash and the space behind it take the
place of the first entry's indentation. -/
theorem ofMapping {entries : List (Node × Node)} (hLines : ReadsEntries 2 lines entries)
    (hNonempty : entries ≠ []) :
    ReadsItems 0 ('-' :: ' ' :: lines.drop 2) [.mapping none entries] := by
  have hText := hLines.ne_nil hNonempty
  obtain ⟨added, hStacked, hUnnamed, hSpells⟩ := hLines
  have hPart : Part 0 _ _ := .ofMapping hStacked hText
  refine ⟨_, .single hPart, ?_, ?_⟩
  · simpa [Token.isNamed, or_imp, forall_and] using hUnnamed
  · have hItem := Node.SpellsItems.cons (Node.Spells.mapping hSpells) .nil
    simpa [Token.withNumber] using hItem

end ReadsItems

end Stencil.Yaml
