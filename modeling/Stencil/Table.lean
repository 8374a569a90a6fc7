/-!
Tables that remember the order in which keys were first seen. A key occurs once; setting
it again changes its value and keeps its place.
-/

namespace Stencil

variable {κ ν : Type} [DecidableEq κ]

namespace Table

/-- Sets `key` in a list of entries. -/
def insertEntry (key : κ) (value : ν) : List (κ × ν) → List (κ × ν)
  | [] => [(key, value)]
  | entry :: entries =>
      if entry.1 = key then (key, value) :: entries
      else entry :: insertEntry key value entries

theorem mem_keys_insertEntry {key other : κ} {value : ν} {entries : List (κ × ν)} :
    other ∈ (insertEntry key value entries).map Prod.fst ↔
      other = key ∨ other ∈ entries.map Prod.fst := by
  induction entries with
  | nil => simp [insertEntry]
  | cons entry entries ih =>
      by_cases h : entry.1 = key
      · simp [insertEntry, h]
      · simp only [insertEntry, h, if_false, List.map_cons, List.mem_cons, ih]
        constructor
        · rintro (h | h | h) <;> simp [h]
        · rintro (h | h | h) <;> simp [h]

/-- Setting a key gives no second entry with it. -/
theorem nodup_insertEntry {key : κ} {value : ν} {entries : List (κ × ν)}
    (h : (entries.map Prod.fst).Nodup) :
    ((insertEntry key value entries).map Prod.fst).Nodup := by
  induction entries with
  | nil => simp [insertEntry]
  | cons entry entries ih =>
      obtain ⟨fresh, rest⟩ := List.nodup_cons.mp h
      by_cases same : entry.1 = key
      · subst same
        simp only [insertEntry, if_true, List.map_cons, List.nodup_cons]
        exact ⟨fresh, rest⟩
      · simp only [insertEntry, same, if_false, List.map_cons, List.nodup_cons]
        exact ⟨fun seen => (mem_keys_insertEntry.mp seen).elim same fresh, ih rest⟩

omit [DecidableEq κ] in
theorem nodup_filter {keep : κ × ν → Bool} {entries : List (κ × ν)}
    (h : (entries.map Prod.fst).Nodup) : ((entries.filter keep).map Prod.fst).Nodup :=
  h.sublist (List.filter_sublist.map Prod.fst)

end Table

/-- A table whose entries stand in the order in which their keys were first set. -/
structure Table (κ ν : Type) where
  entries : List (κ × ν)
  keys_nodup : (entries.map Prod.fst).Nodup

namespace Table

def empty : Table κ ν := ⟨[], List.nodup_nil⟩

/-- Sets `key`; a key seen before keeps its place. -/
def insert (table : Table κ ν) (key : κ) (value : ν) : Table κ ν :=
  ⟨insertEntry key value table.entries, nodup_insertEntry table.keys_nodup⟩

/-- Sets all the pairs, in their order. -/
def insertMany (table : Table κ ν) (pairs : List (κ × ν)) : Table κ ν :=
  pairs.foldl (fun table pair => table.insert pair.1 pair.2) table

/-- The table of a list of pairs, of which the last one with a key gives its value. -/
def ofList (pairs : List (κ × ν)) : Table κ ν := empty.insertMany pairs

/-- The value of a key, if it has one. -/
def get? (table : Table κ ν) (key : κ) : Option ν :=
  (table.entries.find? fun entry => entry.1 = key).map Prod.snd

/-- The keys, in the order of first insertion. -/
def keys (table : Table κ ν) : List κ := table.entries.map Prod.fst

def isEmpty (table : Table κ ν) : Bool := table.entries.isEmpty

/-- Sets all entries of `overrides`. -/
def merge (table overrides : Table κ ν) : Table κ ν := table.insertMany overrides.entries

/-- The entries whose keys are to be kept, in their order. -/
def restrict (table : Table κ ν) (keep : κ → Bool) : Table κ ν :=
  ⟨table.entries.filter fun entry => keep entry.1, nodup_filter table.keys_nodup⟩

def erase (table : Table κ ν) (key : κ) : Table κ ν := table.restrict fun other => other ≠ key

instance : Inhabited (Table κ ν) := ⟨empty⟩

instance [DecidableEq ν] : DecidableEq (Table κ ν) := fun a b =>
  decidable_of_iff (a.entries = b.entries)
    ⟨fun h => by cases a; cases b; cases h; rfl, fun h => h ▸ rfl⟩

end Table

end Stencil
