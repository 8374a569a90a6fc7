import Stencil.Proofs.Table
import Stencil.Values

/-! Which values are in force after a list of assignments, and in which order. A later assignment
takes the place of the first one with its key, just as a table that overrides another does. -/

namespace Stencil.Values

/-- A pair that is added is set over what is there. -/
theorem effective_push (values : Values) (key value : String) :
    (values.push key value).effective = values.effective.insert key value := by
  rw [effective, push, List.map_append, Table.ofList_append]
  rfl

theorem effective_foldl_push (values : Values) (entries : List (String × String)) :
    (entries.foldl (fun values entry => values.push entry.1 entry.2) values).effective =
      values.effective.insertMany entries := by
  induction entries generalizing values with
  | nil => rfl
  | cons entry entries ih =>
      rw [List.foldl_cons, ih, effective_push]
      rfl

/-- Keys stand in the order in which they were first given. -/
theorem keys_effective (values : Values) :
    values.effective.keys = (values.assignments.map Assignment.key).eraseDups := by
  rw [effective, Table.keys_ofList, List.map_map]
  rfl

/-- Of several values for a key the last one counts. -/
theorem get?_effective (values : Values) (key : String) :
    values.effective.get? key =
      (values.assignments.reverse.find? fun assignment => assignment.key = key).map
        Assignment.value := by
  rw [effective, Table.get?_ofList, ← List.map_reverse, List.find?_map, Option.map_map]
  rfl

/-- The value of a key is the one after which the key is not assigned again. -/
theorem get?_effective_eq_some_iff {values : Values} {key value : String} :
    values.effective.get? key = some value ↔
      ∃ front back, values.assignments = front ++ ⟨key, value⟩ :: back ∧
        key ∉ back.map Assignment.key := by
  rw [get?_effective, Option.map_eq_some_iff]
  constructor
  · rintro ⟨last, hFind, rfl⟩
    obtain ⟨hKey, later, earlier, hSplit, hLater⟩ := List.find?_eq_some_iff_append.mp hFind
    obtain rfl : last.key = key := by simpa using hKey
    refine ⟨earlier.reverse, later.reverse, ?_, ?_⟩
    · rw [List.reverse_eq_iff.mp hSplit]
      simp
    · simpa using hLater
  · rintro ⟨front, back, hSplit, hBack⟩
    refine ⟨⟨key, value⟩, List.find?_eq_some_iff_append.mpr ⟨by simp, back.reverse,
      front.reverse, by simp [hSplit], ?_⟩, rfl⟩
    simpa using hBack

/-- Values may be read in two parts, as the table of the first with that of the second merged into
it, wherever the list is cut. -/
theorem effective_append (values : Values) (front back : List Assignment) :
    { values with assignments := front ++ back }.effective =
      { values with assignments := front }.effective.merge
        { values with assignments := back }.effective := by
  rw [effective, List.map_append, ← Table.merge_ofList]
  rfl

/-- The values made anew from what is in force, assigned one key after the other. -/
def rebuilt (values : Values) : Values :=
  values.effective.entries.foldl (fun values entry => values.push entry.1 entry.2)
    { values with assignments := [] }

/-- Values that are made again from their table give the same table. -/
theorem effective_rebuilt (values : Values) : values.rebuilt.effective = values.effective := by
  rw [rebuilt, effective_foldl_push]
  exact Table.ofList_entries values.effective

/-- A table that overrides another changes values and adds keys, but moves none. So any number of
tables may be merged from either side, and a table changes nothing where it is merged into itself.
A list of assignments comes to the keys in the order in which they first occur, each with the
value that it was last given. It may be cut anywhere, as both parts then merge to the same, and it
may be exchanged for what is in force. -/
theorem overriding_keeps_places (table overrides further : Table String String)
    (values : Values) :
    let merged := table.merge overrides
    (merged.keys = table.keys ++ overrides.keys.filter (· ∉ table.keys) ∧
      ∀ key, merged.get? key = (overrides.get? key).or (table.get? key)) ∧
    merged.merge further = table.merge (overrides.merge further) ∧
    (table.merge table = table ∧ Table.empty.merge table = table ∧
      table.merge .empty = table) ∧
    (values.effective.keys = (values.assignments.map Assignment.key).eraseDups ∧
      ∀ key value, (key, value) ∈ values.effective.entries ↔
        ∃ front back, values.assignments = front ++ ⟨key, value⟩ :: back ∧
          key ∉ back.map Assignment.key) ∧
    (∀ front back, { values with assignments := front ++ back }.effective =
      { values with assignments := front }.effective.merge
        { values with assignments := back }.effective) ∧
    values.rebuilt.effective = values.effective := by
  intro merged
  refine ⟨⟨table.keys_merge overrides, table.get?_merge overrides⟩,
    table.merge_assoc overrides further, ⟨table.merge_self, table.ofList_entries, rfl⟩,
    ⟨values.keys_effective, fun key value => ?_⟩, values.effective_append,
    values.effective_rebuilt⟩
  rw [Table.mem_entries_iff, get?_effective_eq_some_iff]

example : (({} : Values).push "A" "1" |>.push "B" "2" |>.push "A" "3").effective.entries =
    [("A", "3"), ("B", "2")] := by decide

end Stencil.Values
