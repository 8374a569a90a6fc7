import Mathlib.Data.List.Nodup
import Stencil.Document.Yaml
import Stencil.Proofs.Table
import Stencil.Proofs.Traversal
import Stencil.Proofs.Yaml.Written

/-! Settings written in YAML are read back as they were. What is left out has the standard value, so
reading it makes up for the omission; an empty text is written, and so is told from none. -/

namespace Stencil

open Yaml (textNode ReadsEntries ReadsItems)

namespace Document.Yaml

/-- The entries that fields are written as. -/
def entriesOf (fields : List (String × Yaml.Node)) : List (Yaml.Node × Yaml.Node) :=
  fields.map fun field => (textNode field.1, field.2)

/-- A field, unless it is left out. -/
def member (key : String) (value : Option Yaml.Node) : List (String × Yaml.Node) :=
  value.toList.map fun node => (key, node)

/-- The fields of a record of which some are left out. -/
def record (members : List (String × Option Yaml.Node)) : List (String × Yaml.Node) :=
  members.flatMap fun (key, value) => member key value

/-- The node of a text that may be missing. -/
def optionalNode (text : Option String) : Option Yaml.Node := text.map textNode

/-- The node of a text, which is left out if it is empty. -/
def nonemptyNode (text : String) : Option Yaml.Node :=
  if text.isEmpty then none else some (textNode text)

/-- The node of a list, which is left out if it is empty. -/
def listNode {α : Type} (node : α → Yaml.Node) (xs : List α) : Option Yaml.Node :=
  if xs.isEmpty then none else some (.sequence none (xs.map node))

/-- How a table stands in a document, its entries in order. -/
def tableNode (table : Table String String) : Yaml.Node :=
  .mapping none (table.entries.map fun change => (textNode change.1, textNode change.2))

def replacementsNode (table : Table String String) : Option Yaml.Node :=
  if table.isEmpty then none
  else some (.mapping none (entriesOf [("APPLY_REPLACE", tableNode table)]))

/-- The members of a repository, with those that are left out. -/
def repositoryMembers (repository : Repository) : List (String × Option Yaml.Node) :=
  [("name", some (textNode repository.name)), ("url", some (textNode repository.url)),
    ("description", nonemptyNode repository.description),
    ("default_branch", optionalNode repository.defaultBranch)]

def repositoryNode (repository : Repository) : Yaml.Node :=
  .mapping none (entriesOf (record (repositoryMembers repository)))

/-- The members of settings, with those that are left out. -/
def settingsMembers (settings : Settings) : List (String × Option Yaml.Node) :=
  [("start_delim", optionalNode settings.opening), ("end_delim", optionalNode settings.closing),
    ("file_size_limit", optionalNode settings.sizeLimit),
    ("ignore_patterns", listNode textNode settings.ignorePatterns),
    ("functions", replacementsNode settings.replacements),
    ("templates", listNode repositoryNode settings.repositories)]

section Read

variable (document : Yaml.Document)

theorem fields?_mapping (fields : List (String × Yaml.Node)) :
    fields? document (.mapping none (entriesOf fields)) = some fields :=
  mapM_map_eq_pure fun _ _ => rfl

theorem filter_member (key : String) (value : Option Yaml.Node) :
    (member key value).filter (fun field => field.1 = key) = member key value :=
  List.filter_eq_self.mpr fun _ hField => by
    obtain ⟨node, -, rfl⟩ := List.mem_map.mp hField
    exact decide_eq_true rfl

theorem mem_keys_of_mem_record {members : List (String × Option Yaml.Node)}
    {field : String × Yaml.Node} (hField : field ∈ record members) :
    field.1 ∈ members.map Prod.fst := by
  obtain ⟨first, hFirst, hMember⟩ := List.mem_flatMap.mp hField
  obtain ⟨node, -, rfl⟩ := List.mem_map.mp hMember
  exact List.mem_map_of_mem hFirst

/-- A key that no member has is not among the fields. -/
theorem filter_record_of_notMem {members : List (String × Option Yaml.Node)} {key : String}
    (hKey : key ∉ members.map Prod.fst) :
    (record members).filter (fun field => field.1 = key) = [] :=
  List.filter_eq_nil_iff.mpr fun _ hField hSame =>
    hKey (of_decide_eq_true hSame ▸ mem_keys_of_mem_record hField)

/-- A field of a record is the member with its key, of which there is at most one. -/
theorem field?_record {α : Type} {members : List (String × Option Yaml.Node)}
    (hKeys : (members.map Prod.fst).Nodup) (key : String) (standard : Option α) (read : Reader α) :
    field? document (record members) key standard read =
      (members.lookup key).join.elim standard (read document) := by
  cases hValue : members.lookup key with
  | none =>
      have hKey : key ∉ members.map Prod.fst := by
        intro hMem
        obtain ⟨member, hMember, rfl⟩ := List.mem_map.mp hMem
        simpa using List.lookup_eq_none_iff.mp hValue member hMember
      rw [field?, filter_record_of_notMem hKey]
      rfl
  | some value =>
      obtain ⟨before, after, rfl, -⟩ := List.lookup_eq_some_iff.mp hValue
      rw [List.map_append, List.map_cons, List.nodup_middle, List.nodup_cons,
        List.mem_append] at hKeys
      have hBefore := filter_record_of_notMem (not_or.mp hKeys.1).1
      have hAfter := filter_record_of_notMem (not_or.mp hKeys.1).2
      rw [record] at hBefore hAfter
      have hFilter : (record (before ++ (key, value) :: after)).filter (fun field => field.1 = key) =
          member key value := by
        rw [record, List.flatMap_append, List.flatMap_cons, List.filter_append, List.filter_append,
          hBefore, hAfter, filter_member, List.nil_append, List.append_nil]
      rw [field?, hFilter]
      cases value <;> rfl

theorem text?_textNode (text : String) : text? document (textNode text) = some text := rfl

/-- A text that is written plain is not one that stands for the null value. -/
theorem textOrNull?_textNode (text : String) :
    textOrNull? document (textNode text) = some (some text) := by
  show (if !Yaml.isPlain text.toList then some (some text)
    else some (if text.isEmpty || nullSpellings.contains text then none else some text)) = _
  cases hPlain : Yaml.isPlain text.toList with
  | false => rfl
  | true =>
      have hNot := Yaml.not_reserved_of_isPlain hPlain
      rw [String.ofList_toList] at hNot
      simp [Yaml.Render.reserved] at hNot
      simp [nullSpellings, hNot]

/-- A text that may be missing is read back, whether it is or not. -/
theorem textOrNull?_optionalNode (text : Option String) :
    (optionalNode text).elim (some none) (textOrNull? document) = some text := by
  cases text with
  | none => rfl
  | some text => exact textOrNull?_textNode document text

/-- An empty text is left out and read back as the standard. -/
theorem text?_nonemptyNode (text : String) :
    (nonemptyNode text).elim (some "") (text? document) = some text := by
  rw [nonemptyNode]
  split
  · next hNone => rw [String.isEmpty_iff.mp hNone]; rfl
  · rfl

/-- The keys of a table are all different, so that none takes another's place. -/
theorem table?_tableNode (table : Table String String) :
    table? document (tableNode table) = some table := by
  have hEntries : entries? document (tableNode table) =
      some (table.entries.map fun change => (textNode change.1, textNode change.2)) := rfl
  rw [table?, hEntries, Option.map_eq_some_iff]
  exact ⟨table.entries, mapM_map_eq_pure fun _ _ => rfl,
    Table.ofList_entries table⟩

/-- An empty table is left out and read back as the standard. -/
theorem replacements?_replacementsNode (table : Table String String) :
    (replacementsNode table).elim (some .empty) (replacements? document) = some table := by
  rw [replacementsNode]
  split
  · next hNone => exact congrArg some (Table.eq_of_entries (List.isEmpty_iff.mp hNone).symm)
  · have hRead := table?_tableNode document table
    simp [replacements?, fields?_mapping, field?, hRead]

/-- An empty list is left out, and any other is read back item by item. -/
theorem list?_listNode {α : Type} {read : Reader α} {node : α → Yaml.Node}
    (hRead : ∀ x, read document (node x) = some x) (xs : List α) :
    (listNode node xs).elim (some []) (list? read document) = some xs := by
  rw [listNode]
  split
  · next hNone => rw [List.isEmpty_iff.mp hNone]; rfl
  · exact mapM_map_eq_pure fun x _ => hRead x

/-- A repository is read back from its members, whether the last two are given or left out. -/
theorem repository?_repositoryNode (repository : Repository) :
    repository? document (repositoryNode repository) = some repository := by
  have hKeys : ((repositoryMembers repository).map Prod.fst).Nodup := by simp [repositoryMembers]
  rw [repository?, repositoryNode, fields?_mapping]
  simp only [field?_record document hKeys]
  simp [repositoryMembers, List.lookup_cons, text?_textNode, text?_nonemptyNode,
    textOrNull?_optionalNode]

end Read

/-- The node of settings. -/
def settingsNode (settings : Settings) : Yaml.Node :=
  .mapping none (entriesOf (record (settingsMembers settings)))

/-- A document that holds the members of settings is read as these settings. -/
theorem settings?_of_parse {text : String} {settings : Settings}
    (hParse : Yaml.Document.parse text = some (.ofRoot (settingsNode settings))) :
    settings? text = some settings := by
  generalize hDocument : Yaml.Document.ofRoot (settingsNode settings) = document at hParse
  have hRoot : rootFields? document = some (record (settingsMembers settings)) := by
    rw [← hDocument]
    exact fields?_mapping _ _
  have hKeys : ((settingsMembers settings).map Prod.fst).Nodup := by simp [settingsMembers]
  have hPatterns := list?_listNode document (text?_textNode document) settings.ignorePatterns
  have hRepositories :=
    list?_listNode document (repository?_repositoryNode document) settings.repositories
  rw [settings?, hParse]
  dsimp only
  rw [hRoot]
  simp only [field?_record document hKeys]
  simp [settingsMembers, List.lookup_cons, textOrNull?_optionalNode, replacements?_replacementsNode,
    hPatterns, hRepositories]

end Document.Yaml

end Stencil
