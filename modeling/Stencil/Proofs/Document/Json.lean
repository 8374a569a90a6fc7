import Stencil.Document.Load
import Stencil.Proofs.Json.Value
import Stencil.Proofs.Table
import Stencil.Proofs.Traversal

/-! Values written in JSON are read back as they were. The written text is that of a JSON value, of
which each part that is left out has the standard value, so reading it makes up for the omission. -/

namespace Stencil.Document.Json

open Stencil.Json

/-- How a text stands in a document. -/
def ofText (text : String) : Value := .text (some text)

/-- How a key with its value stands in a document: both fields are always there. -/
def ofAssignment (assignment : Assignment) : Value :=
  .object [(some "key", ofText assignment.key), (some "value", ofText assignment.value)]

/-- How a table stands in a document: a field for every key, in the table's order. -/
def ofTable (table : Table String String) : Value :=
  .object (table.entries.map fun (key, text) => (some key, ofText text))

/-- The JSON value that values are written as. -/
def ofValues (values : Values) : Value :=
  .object
    ([(some "variables", .array (values.assignments.map ofAssignment))] ++
      (if values.ignorePatterns.isEmpty then []
      else [(some "ignore_patterns", .array (values.ignorePatterns.map ofText))]) ++
      (if values.replacements.isEmpty then []
      else [(some "functions", .object [(some "APPLY_REPLACE", ofTable values.replacements)])]))

/-- An array is read back if its items are. -/
theorem reads_writeArray {texts : List (List Char)} {values : List Value}
    (hTexts : List.Forall₂ Reads texts values) : Reads (writeArray texts) (.array values) :=
  .array hTexts

/-- An object is read back with its fields in their order, if their values are. -/
theorem reads_writeObject {written : List (String × List Char)}
    {fields : List (Option String × Value)}
    (hFields : List.Forall₂ (fun text field => field.1 = some text.1 ∧ Reads text.2 field.2)
      written fields) : Reads (writeObject written) (.object fields) := by
  apply Reads.object
  rw [List.forall₂_map_left_iff]
  exact hFields.imp fun text field ⟨hKey, hText⟩ => ⟨text.1, text.2, rfl, hKey, hText⟩

/-- A list written member by member. -/
theorem reads_writeArray_map {α : Type} {write : α → List Char} {value : α → Value}
    (hWrite : ∀ x, Reads (write x) (value x)) (xs : List α) :
    Reads (writeArray (xs.map write)) (.array (xs.map value)) := by
  apply reads_writeArray
  simp [List.forall₂_map_left_iff, List.forall₂_map_right_iff, List.forall₂_same, hWrite]

theorem reads_quote (text : String) : Reads (quote text.toList) (ofText text) := .text text

theorem reads_writeAssignment (assignment : Assignment) :
    Reads (writeAssignment assignment) (ofAssignment assignment) :=
  reads_writeObject (.cons ⟨rfl, reads_quote _⟩ (.cons ⟨rfl, reads_quote _⟩ .nil))

theorem reads_writeTable (table : Table String String) :
    Reads (writeTable table) (ofTable table) := by
  apply reads_writeObject
  simp [List.forall₂_map_left_iff, List.forall₂_map_right_iff, List.forall₂_same, reads_quote]

/-- What is written for values reads as the document of these values. -/
theorem reads_write (values : Values) : Reads (write values).toList (ofValues values) := by
  rw [write, String.toList_ofList]
  apply reads_writeObject
  refine List.rel_append (List.rel_append
    (.cons ⟨rfl, reads_writeArray_map reads_writeAssignment _⟩ .nil) ?_) ?_
  · split
    · exact .nil
    · exact .cons ⟨rfl, reads_writeArray_map reads_quote _⟩ .nil
  · split
    · exact .nil
    · exact .cons ⟨rfl, reads_writeObject (.cons ⟨rfl, reads_writeTable _⟩ .nil)⟩ .nil

theorem text?_ofText (text : String) : text? (ofText text) = some text := rfl

theorem assignment?_ofAssignment (assignment : Assignment) :
    assignment? (ofAssignment assignment) = some assignment := rfl

theorem texts?_map_ofText (texts : List String) :
    texts? (.array (texts.map ofText)) = some texts :=
  mapM_map_eq_pure fun text _ => text?_ofText text

/-- The keys of a table are all different, so that none takes another's place. -/
theorem table?_ofTable (table : Table String String) : table? (ofTable table) = some table := by
  rw [ofTable, table?, Option.map_eq_some_iff]
  exact ⟨table.entries, mapM_map_eq_pure fun _ _ => rfl,
    Table.ofList_entries table⟩

theorem replacements?_object (table : Table String String) :
    replacements? (.object [(some "APPLY_REPLACE", ofTable table)]) = some table := by
  simp [replacements?, record?, fields?, field?, orElse, table?_ofTable]

theorem assignments?_map (assignments : List Assignment) :
    (items? (.array (assignments.map ofAssignment))).bind (·.mapM assignment?) =
      some assignments :=
  mapM_map_eq_pure fun assignment _ => assignment?_ofAssignment assignment

/-- The three fields are found, and those that were left out are missing. -/
theorem record?_ofValues (values : Values) :
    record? ["variables", "ignore_patterns", "functions"] (ofValues values) =
      some [some (.array (values.assignments.map ofAssignment)),
        if values.ignorePatterns.isEmpty then none
        else some (.array (values.ignorePatterns.map ofText)),
        if values.replacements.isEmpty then none
        else some (.object [(some "APPLY_REPLACE", ofTable values.replacements)])] := by
  rw [ofValues]
  split <;> split <;> simp [record?, fields?, field?]

/-- What is left out reads as what there is none of. -/
theorem orElse_texts? (patterns : List String) :
    orElse [] texts? (if patterns.isEmpty then none else some (.array (patterns.map ofText))) =
      some patterns := by
  split
  · next hNone => rw [List.isEmpty_iff.mp hNone, orElse]
  · exact texts?_map_ofText patterns

/-- A table that was left out because it was empty is read as the empty table. -/
theorem orElse_replacements? (table : Table String String) :
    orElse .empty replacements? (if table.isEmpty then none
      else some (.object [(some "APPLY_REPLACE", ofTable table)])) = some table := by
  split
  · next hNone => exact congrArg some (Table.eq_of_entries (List.isEmpty_iff.mp hNone).symm)
  · exact replacements?_object table

/-- The document of values gives the values: the defaults put back just what is left out. -/
theorem values?_ofValues (values : Values) : values? (ofValues values) = some values := by
  have hAssignments := assignments?_map values.assignments
  have hPatterns := orElse_texts? values.ignorePatterns
  have hTable := orElse_replacements? values.replacements
  rw [values?, record?_ofValues]
  dsimp only
  rw [hPatterns, hTable, orElse, hAssignments]

/-- Values that are written in JSON are read back as they were: the same assignments and patterns
in the same order, repeated ones too, and the same table with its keys in the same order. -/
theorem values_are_read_back_from_json (values : Values) :
    Document.parse .json (write values) = .ok values := by
  have hBlank : Text.isBlankText (write values) = false := by
    rw [Text.isBlankText, List.all_eq_false, write, String.toList_ofList]
    exact ⟨'\x7b', by simp [writeObject], by decide⟩
  have hParse : parse (write values) = some values := by
    rw [parse, (reads_write values).parse]
    exact values?_ofValues values
  rw [Document.parse, hBlank]
  simp [hParse]

end Stencil.Document.Json
