import Stencil.Proofs.Document.Yaml
import Stencil.Text.Blank

/-! The lines that settings are written in are read as the nodes of the settings, record by record and
list by list. -/

namespace Stencil.Settings

open Document.Yaml (entriesOf record optionalNode nonemptyNode listNode replacementsNode
  repositoryNode settingsMembers settingsNode)
open Yaml (Reads ReadsEntries ReadsItems textNode)
open Yaml.Render (style isSimpleKey entry item)

/-- Lines that are read as the members of a record. Unless there are none, a colon is among them. -/
structure ReadsRecord (column : Nat) (lines : List Char)
    (members : List (String × Option Yaml.Node)) : Prop where
  entries : ReadsEntries column lines (entriesOf (record members))
  colon : lines = [] ∨ ':' ∈ lines

namespace ReadsRecord

variable {column : Nat} {lines lines' : List Char}
  {members members' : List (String × Option Yaml.Node)}

/-- A member that is left out takes no lines. -/
theorem missing (column : Nat) (key : String) : ReadsRecord column [] [(key, none)] where
  entries := .nil .nil
  colon := .inl rfl

/-- Members follow each other as their lines do. -/
theorem append (hLines : ReadsRecord column lines members)
    (hLines' : ReadsRecord column lines' members') :
    ReadsRecord column (lines ++ lines') (members ++ members') where
  entries := by
    rw [entriesOf, record, List.flatMap_append, List.map_append]
    exact Reads.append .append hLines.entries hLines'.entries
  colon := by
    rcases hLines.colon with rfl | hColon
    · exact hLines'.colon
    · exact .inr (List.mem_append_left lines' hColon)

/-- A heading with what is indented below it is one member. -/
theorem ofHeading {key : String} {value : Yaml.Node}
    (hLines : ReadsEntries column (heading column key ++ lines) [(textNode key, value)]) :
    ReadsRecord column (heading column key ++ lines) [(key, some value)] where
  entries := hLines
  colon := .inr (by simp [heading])

end ReadsRecord

theorem reads_text (column : Nat) (key text : String) :
    ReadsRecord column (entry column key.toList text.toList) [(key, some (textNode text))] where
  entries := .ofTexts column key text
  colon := .inr (by
    rw [entry]
    split <;> simp)

/-- A text that is not given is left out, and one that is given is read back. -/
theorem reads_optionalEntry (column : Nat) (key : String) (value : Option String) :
    ReadsRecord column (optionalEntry column key value) [(key, optionalNode value)] := by
  cases value with
  | none => exact .missing column key
  | some text => exact reads_text column key text

/-- A list below its key, unless it is empty. -/
theorem reads_list {α : Type} {key : String} (hPlain : style key.toList = .plain)
    (hSimple : isSimpleKey key.toList = true) {write : α → List Char} {node : α → Yaml.Node}
    (hWrite : ∀ x, ReadsItems 0 (write x) [node x]) (xs : List α) :
    ReadsRecord 0 (if xs.isEmpty then [] else heading 0 key ++ xs.flatMap write)
      [(key, listNode node xs)] := by
  rw [listNode]
  split
  · exact .missing 0 key
  · next hSome =>
      have hItems : ReadsItems 0 (xs.flatMap write) (xs.map node) := .flatMap .nil .append hWrite xs
      exact .ofHeading (.ofItems hPlain hSimple hItems (by simpa using hSome))

theorem patternLines_eq (patterns : List String) :
    patternLines patterns = if patterns.isEmpty then [] else
      heading 0 "ignore_patterns" ++ patterns.flatMap fun pattern => item 0 pattern.toList := by
  cases patterns <;> rfl

/-- Patterns are a list of texts, left out where there are none. -/
theorem reads_patternLines (patterns : List String) :
    ReadsRecord 0 (patternLines patterns) [("ignore_patterns", listNode textNode patterns)] := by
  rw [patternLines_eq]
  exact reads_list (by decide) (by decide) (fun pattern => .ofText 0 pattern) patterns

theorem replacementLines_eq (table : Table String String) :
    replacementLines table = if table.isEmpty then [] else
      heading 0 "functions" ++ (heading 2 "APPLY_REPLACE" ++
        table.entries.flatMap fun change => entry 4 change.1.toList change.2.toList) := by
  rw [replacementLines, List.append_assoc]
  rfl

/-- Replacements are a record in a record, left out together where there are none. -/
theorem reads_replacementLines (table : Table String String) :
    ReadsRecord 0 (replacementLines table) [("functions", replacementsNode table)] := by
  have hChange : ∀ change : String × String, ReadsEntries 4
      (entry 4 change.1.toList change.2.toList) [(textNode change.1, textNode change.2)] :=
    fun change => .ofTexts 4 change.1 change.2
  rw [replacementLines_eq, replacementsNode]
  split
  · exact .missing 0 "functions"
  · next hSome =>
      have hEntries := Reads.flatMap .nil .append hChange table.entries
      have hNonempty : table.entries.map (fun change =>
          (textNode change.1, textNode change.2)) ≠ [] := by
        simpa [Table.isEmpty] using hSome
      have hTable : ReadsEntries 2 (heading 2 "APPLY_REPLACE" ++ _) _ :=
        .ofMapping (by decide) (by decide) hEntries hNonempty (by decide)
      have hTables : ReadsEntries 0 (heading 0 "functions" ++ _) _ :=
        .ofMapping (by decide) (by decide) hTable (by simp) (by decide)
      exact .ofHeading hTables

theorem reads_description (column : Nat) (key text : String) :
    ReadsRecord column (if text.isEmpty then [] else entry column key.toList text.toList)
      [(key, nonemptyNode text)] := by
  rw [nonemptyNode]
  split
  · exact .missing column key
  · exact reads_text column key text

/-- A repository is an item with its members, of which the name and the address are always there. -/
theorem reads_repositoryLines (repository : Repository) :
    ReadsItems 0 (repositoryLines repository) [repositoryNode repository] := by
  have hLines := (((reads_text 2 "name" repository.name).append
    (reads_text 2 "url" repository.url)).append
    (reads_description 2 "description" repository.description)).append
    (reads_optionalEntry 2 "default_branch" repository.defaultBranch)
  exact ReadsItems.ofMapping hLines.entries (List.cons_ne_nil _ _)

theorem repositoriesLines_eq (repositories : List Repository) :
    repositoriesLines repositories = if repositories.isEmpty then [] else
      heading 0 "templates" ++ repositories.flatMap repositoryLines := by
  cases repositories <;> rfl

/-- Repositories are a list of records, left out where there are none. -/
theorem reads_repositoriesLines (repositories : List Repository) :
    ReadsRecord 0 (repositoriesLines repositories)
      [("templates", listNode repositoryNode repositories)] := by
  rw [repositoriesLines_eq]
  exact reads_list (by decide) (by decide) reads_repositoryLines repositories

/-- The lines of settings, in place of which a mapping without entries is written if there are
none. -/
theorem exists_lines (settings : Settings) :
    ∃ lines, ReadsRecord 0 lines (settingsMembers settings) ∧
      settings.render = if lines.isEmpty then "\x7b\x7d\n" else String.ofList lines :=
  ⟨_, (((((reads_optionalEntry 0 "start_delim" settings.opening).append
    (reads_optionalEntry 0 "end_delim" settings.closing)).append
    (reads_optionalEntry 0 "file_size_limit" settings.sizeLimit)).append
    (reads_patternLines settings.ignorePatterns)).append
    (reads_replacementLines settings.replacements)).append
    (reads_repositoriesLines settings.repositories), rfl⟩

/-- The text of settings is that of their node. -/
theorem parse_render (settings : Settings) :
    Yaml.Document.parse settings.render = some (.ofRoot (settingsNode settings)) := by
  obtain ⟨lines, hLines, hRender⟩ := exists_lines settings
  rw [hRender, settingsNode]
  split
  · next hNone =>
      rw [not_imp_not.mp hLines.entries.ne_nil (List.isEmpty_iff.mp hNone)]
      cbv
  · next hSome => exact hLines.entries.parse fun hNone => hSome (List.isEmpty_iff.mpr hNone)

/-- What is written is not blank. -/
theorem isBlankText_render (settings : Settings) : Text.isBlankText settings.render = false := by
  obtain ⟨lines, hLines, hRender⟩ := exists_lines settings
  rw [hRender, Text.isBlankText, List.all_eq_false]
  split
  · exact ⟨'\x7b', by simp, by decide⟩
  · next hSome =>
      have hColon := hLines.colon.resolve_left fun hNone => hSome (List.isEmpty_iff.mpr hNone)
      exact ⟨':', by rwa [String.toList_ofList], by decide⟩

end Stencil.Settings
