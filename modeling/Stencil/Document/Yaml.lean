import Stencil.Settings
import Stencil.Yaml.Node

/-!
Reading values and settings from YAML. Any scalar is a text, whatever its tag. Where a
record, a list or a table is called for, an empty plain scalar stands for an empty one. A
record is a mapping: fields may be missing if they have a standard value, may not occur
twice, and are passed over if they are unknown. In a table a key that occurs again takes
its last value.
-/

namespace Stencil.Document.Yaml

/-- A way to read a node of a document. -/
abbrev Reader (α : Type) := Yaml.Document → Yaml.Node → Option α

/-- Any scalar is a text, whatever it looks like. -/
def text? : Reader String := fun document node =>
  match document.resolve node with
  | some (.scalar _ _ text _) => some text
  | _ => none

/-- The items of a sequence. A place left empty is an empty one. -/
def items? : Reader (List Yaml.Node) := fun document node =>
  match document.resolve node with
  | some (.sequence _ items) => some items
  | some (.scalar _ _ "" true) => some []
  | _ => none

def entries? : Reader (List (Yaml.Node × Yaml.Node)) := fun document node =>
  match document.resolve node with
  | some (.mapping _ entries) => some entries
  | some (.scalar _ _ "" true) => some []
  | _ => none

/-- A list whose items are all read in one way. -/
def list? {α : Type} (item : Reader α) : Reader (List α) := fun document node =>
  (items? document node).bind (·.mapM (item document))

/-- A table of texts. A key that comes again keeps its place and takes the last value. -/
def table? : Reader (Table String String) := fun document node =>
  match entries? document node with
  | none => none
  | some entries =>
      (entries.mapM fun (entry : Yaml.Node × Yaml.Node) =>
        match text? document entry.1, text? document entry.2 with
        | some key, some value => some (key, value)
        | _, _ => none).map .ofList

/-- Spellings of the null value. -/
def nullSpellings : List String := ["null", "Null", "NULL", "~"]

def nullTag : Bytes := Text.Utf8.encode "tag:yaml.org,2002:null"

/-- A text, or the null value. In quotes there is no null value; tagged as one, a plain
scalar has to be one. -/
def textOrNull? : Reader (Option String) := fun document node =>
  match document.resolve node with
  | some (.scalar _ tag text plain) =>
      if !plain then some (some text)
      else
        match tag with
        | none => some (if text.isEmpty || nullSpellings.contains text then none else some text)
        | some tag =>
            if tag = nullTag then
              if nullSpellings.contains text then some none else none
            else some (some text)
  | _ => none

/-- The fields of a record, with those that no reader asks for. -/
def fields? : Reader (List (String × Yaml.Node)) := fun document node =>
  match entries? document node with
  | none => none
  | some entries =>
      entries.mapM fun (entry : Yaml.Node × Yaml.Node) =>
        (text? document entry.1).map fun key => (key, entry.2)

/-- The value of a field, or the standard value if the field is missing. -/
def field? {α : Type} (document : Yaml.Document) (fields : List (String × Yaml.Node))
    (key : String) (standard : Option α) (read : Reader α) : Option α :=
  match fields.filter fun field => field.1 = key with
  | [] => standard
  | [(_, node)] => read document node
  | _ => none

def assignment? : Reader Assignment := fun document node =>
  match fields? document node with
  | none => none
  | some fields =>
      match field? document fields "key" none text?,
        field? document fields "value" none text? with
      | some key, some value => some ⟨key, value⟩
      | _, _ => none

/-- The tables of a document, of which there is one. -/
def replacements? : Reader (Table String String) := fun document node =>
  match fields? document node with
  | none => none
  | some fields => field? document fields "APPLY_REPLACE" (some .empty) table?

/-- The fields of the record that a document holds. A void document holds an empty one. -/
def rootFields? (document : Yaml.Document) : Option (List (String × Yaml.Node)) :=
  match document.root with
  | none => some []
  | some root => fields? document root

def values? (text : String) : Option Values :=
  match Yaml.Document.parse text with
  | none => none
  | some document =>
      match rootFields? document with
      | none => none
      | some fields =>
          match field? document fields "variables" (some []) (list? assignment?),
            field? document fields "ignore_patterns" (some []) (list? text?),
            field? document fields "functions" (some .empty) replacements? with
          | some assignments, some patterns, some table => some ⟨assignments, patterns, table⟩
          | _, _, _ => none

def repository? : Reader Repository := fun document node =>
  match fields? document node with
  | none => none
  | some fields =>
      match field? document fields "name" none text?,
        field? document fields "url" none text?,
        field? document fields "description" (some "") text?,
        field? document fields "default_branch" (some none) textOrNull? with
      | some name, some url, some description, some branch =>
          some ⟨name, url, description, branch⟩
      | _, _, _, _ => none

def settings? (text : String) : Option Settings :=
  match Yaml.Document.parse text with
  | none => none
  | some document =>
      match rootFields? document with
      | none => none
      | some fields =>
          match field? document fields "start_delim" (some none) textOrNull?,
            field? document fields "end_delim" (some none) textOrNull?,
            field? document fields "file_size_limit" (some none) textOrNull?,
            field? document fields "ignore_patterns" (some []) (list? text?),
            field? document fields "functions" (some .empty) replacements?,
            field? document fields "templates" (some []) (list? repository?) with
          | some opening, some closing, some limit, some patterns, some table,
              some repositories =>
              some ⟨opening, closing, limit, patterns, table, repositories⟩
          | _, _, _, _, _, _ => none

end Stencil.Document.Yaml
