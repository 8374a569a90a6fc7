import Stencil.Json.Value
import Stencil.Values

/-!
Values documents in JSON: reading them, and writing them in the shortest form.

A record may be written as an object or as an array of its fields in their order. A field
of an object may be missing if it has a standard value, may not occur twice, and is passed
over if it is unknown. In a table a key that occurs again takes its last value.
-/

namespace Stencil.Document.Json

open Stencil.Json

/-- A text, unless it holds a lone surrogate. -/
def text? : Value → Option String
  | .text content => content
  | _ => none

def items? : Value → Option (List Value)
  | .array items => some items
  | _ => none

/-- The fields of an object, if every key is a text. -/
def fields? (fields : List (Option String × Value)) : Option (List (String × Value)) :=
  fields.mapM fun field => field.1.map fun key => (key, field.2)

/-- The one value of a field that may be missing. -/
def field? (fields : List (String × Value)) (key : String) : Option (Option Value) :=
  match fields.filter fun field => field.1 = key with
  | [] => some none
  | [(_, value)] => some (some value)
  | _ => none

/-- The values of a record's fields, by name from an object or by place from an array. -/
def record? (names : List String) : Value → Option (List (Option Value))
  | .object fields => (fields? fields).bind fun fields => names.mapM (field? fields)
  | .array items =>
      if items.length ≤ names.length then
        some (items.map some ++ List.replicate (names.length - items.length) none)
      else none
  | _ => none

/-- Reads a field that has a standard value. -/
def orElse {α : Type} (standard : α) (read : Value → Option α) : Option Value → Option α
  | none => some standard
  | some value => read value

/-- A list of texts. -/
def texts? (value : Value) : Option (List String) := (items? value).bind (·.mapM text?)

/-- A table of texts. A key that comes again keeps its place and takes the last value. -/
def table? : Value → Option (Table String String)
  | .object fields =>
      (fields.mapM fun (field : Option String × Value) =>
        match field.1, text? field.2 with
        | some key, some text => some (key, text)
        | _, _ => none).map Table.ofList
  | _ => none

/-- An assignment. Both of its fields are needed. -/
def assignment? (value : Value) : Option Assignment :=
  match record? ["key", "value"] value with
  | some [some key, some value] =>
      match text? key, text? value with
      | some key, some value => some ⟨key, value⟩
      | _, _ => none
  | _ => none

/-- The tables of a document, of which there is one. -/
def replacements? (value : Value) : Option (Table String String) :=
  match record? ["APPLY_REPLACE"] value with
  | some [table] => orElse .empty table? table
  | _ => none

def values? (value : Value) : Option Values :=
  match record? ["variables", "ignore_patterns", "functions"] value with
  | some [assignments, patterns, tables] =>
      match orElse [] (fun value => (items? value).bind (·.mapM assignment?)) assignments,
        orElse [] texts? patterns, orElse .empty replacements? tables with
      | some assignments, some patterns, some table => some ⟨assignments, patterns, table⟩
      | _, _, _ => none
  | _ => none

def parse (text : String) : Option Values := (Value.parse text).bind values?

def commaSeparated (parts : List (List Char)) : List Char := [','].intercalate parts

def writeObject (fields : List (String × List Char)) : List Char :=
  ['\x7b'] ++ commaSeparated (fields.map fun (key, value) => quote key.toList ++ ':' :: value) ++
    ['\x7d']

def writeArray (items : List (List Char)) : List Char := '[' :: commaSeparated items ++ [']']

def writeAssignment (assignment : Assignment) : List Char :=
  writeObject [("key", quote assignment.key.toList), ("value", quote assignment.value.toList)]

/-- A table as an object, in its own order. -/
def writeTable (table : Table String String) : List Char :=
  writeObject (table.entries.map fun (key, value) => (key, quote value.toList))

/-- Values as an object. Only the assignments are written when there are none. -/
def write (values : Values) : String :=
  String.ofList (writeObject
    ([("variables", writeArray (values.assignments.map writeAssignment))] ++
      (if values.ignorePatterns.isEmpty then []
      else [("ignore_patterns",
        writeArray (values.ignorePatterns.map fun pattern => quote pattern.toList))]) ++
      (if values.replacements.isEmpty then []
      else [("functions", writeObject [("APPLY_REPLACE", writeTable values.replacements)])])))

end Stencil.Document.Json
