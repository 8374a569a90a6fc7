import Mathlib.Data.List.Basic
import Mathlib.Data.List.Induction
import Stencil.Table

/-! What is looked up in a table after an entry was set or dropped, and which keys it then
has. Setting a key that is there already keeps the list of keys as it is, so that the order of
the keys is part of what tables are when one is merged into another. -/

namespace Stencil.Table

variable {κ ν : Type} [DecidableEq κ]

omit [DecidableEq κ] in
/-- Tables with the same entries are the same: that no key comes twice is a fact about the entries
and no data of its own. -/
theorem eq_of_entries {table table' : Table κ ν} (hEntries : table.entries = table'.entries) :
    table = table' := by
  cases table
  cases table'
  cases hEntries
  rfl

omit [DecidableEq κ] in
theorem nodup_of_keys {entries : List (κ × ν)} (hKeys : (entries.map Prod.fst).Nodup) :
    entries.Nodup :=
  (List.pairwise_map.mp hKeys).imp fun hNe hSame => hNe (congrArg Prod.fst hSame)

/-- Setting a key is seen by a look-up of that key and by no other, whether the entry was changed in
its place or put last. -/
theorem find?_insertEntry (key other : κ) (value : ν) (entries : List (κ × ν)) :
    ((insertEntry key value entries).find? fun entry => entry.1 = other).map Prod.snd =
      if other = key then some value
      else (entries.find? fun entry => entry.1 = other).map Prod.snd := by
  induction entries with
  | nil =>
      by_cases hKey : other = key
      · simp [insertEntry, hKey]
      · simp [insertEntry, hKey, Ne.symm hKey]
  | cons entry entries ih =>
      rw [insertEntry]
      by_cases hSame : entry.1 = key
      · by_cases hKey : other = key
        · simp [hSame, hKey]
        · simp [hSame, hKey, Ne.symm hKey]
      · by_cases hHere : entry.1 = other
        · have hKey : other ≠ key := hHere ▸ hSame
          simp [hHere, hKey]
        · simp only [hSame, if_false, List.find?_cons, hHere, decide_false, ih]

/-- What is set is found, and all else as before. -/
theorem get?_insert (table : Table κ ν) (key other : κ) (value : ν) :
    (table.insert key value).get? other = if other = key then some value else table.get? other :=
  find?_insertEntry key other value table.entries

/-- The last pair with a key gives its value. -/
theorem get?_insertMany (table : Table κ ν) (pairs : List (κ × ν)) (key : κ) :
    (table.insertMany pairs).get? key =
      ((pairs.reverse.find? fun pair => pair.1 = key).map Prod.snd).or (table.get? key) := by
  induction pairs generalizing table with
  | nil => rfl
  | cons pair pairs ih =>
      rw [insertMany, List.foldl_cons, ← insertMany, ih, get?_insert, List.reverse_cons,
        List.find?_append]
      cases pairs.reverse.find? fun pair => pair.1 = key with
      | some last => rfl
      | none =>
          by_cases hKey : pair.1 = key
          · simp [hKey]
          · simp [hKey, Ne.symm hKey]

theorem get?_ofList (pairs : List (κ × ν)) (key : κ) :
    (ofList pairs).get? key =
      (pairs.reverse.find? fun pair => pair.1 = key).map Prod.snd := by
  rw [ofList, get?_insertMany]
  exact Option.or_none

/-- A table that keeps some of its keys gives their values and no others. -/
theorem get?_restrict (table : Table κ ν) (keep : κ → Bool) (key : κ) :
    (table.restrict keep).get? key = if keep key then table.get? key else none := by
  have hAny (entry : κ × ν) :
      (keep entry.1 && decide (entry.1 = key)) = (keep key && decide (entry.1 = key)) := by
    by_cases hKey : entry.1 = key <;> simp [hKey]
  rw [get?, get?, restrict, List.find?_filter]
  cases hKeep : keep key <;> simp [hAny, hKeep]

theorem get?_erase (table : Table κ ν) (key other : κ) :
    (table.erase key).get? other = if other = key then none else table.get? other := by
  rw [erase, get?_restrict]
  by_cases hKey : other = key <;> simp [hKey]

omit [DecidableEq κ] in
theorem keys_restrict (table : Table κ ν) (keep : κ → Bool) :
    (table.restrict keep).keys = table.keys.filter keep := by
  rw [keys, keys, restrict, List.filter_map]
  rfl

/-- What is looked up is an entry. -/
theorem mem_entries_of_get? {table : Table κ ν} {key : κ} {value : ν}
    (hValue : table.get? key = some value) : (key, value) ∈ table.entries := by
  obtain ⟨entry, hFind, rfl⟩ := Option.map_eq_some_iff.mp hValue
  have hKey : entry.1 = key := by simpa using List.find?_some hFind
  rw [← hKey]
  exact List.mem_of_find?_eq_some hFind

/-- Every entry is found, as no key comes twice and so none hides another. -/
theorem get?_of_mem_entries {table : Table κ ν} {key : κ} {value : ν}
    (hMem : (key, value) ∈ table.entries) : table.get? key = some value := by
  obtain ⟨entries, hNodup⟩ := table
  change (entries.find? fun entry => entry.1 = key).map Prod.snd = some value
  induction entries with
  | nil => exact absurd hMem List.not_mem_nil
  | cons entry entries ih =>
      obtain ⟨hFresh, hRest⟩ := List.nodup_cons.mp hNodup
      rcases List.mem_cons.mp hMem with rfl | hLater
      · simp
      · have hKey : entry.1 ≠ key := fun hSame =>
          hFresh (hSame ▸ List.mem_map_of_mem (f := Prod.fst) hLater)
        simpa [List.find?_cons, hKey] using ih hRest hLater

/-- A key that is there keeps its place. -/
theorem map_fst_insertEntry_of_mem {key : κ} {value : ν} {entries : List (κ × ν)}
    (hMem : key ∈ entries.map Prod.fst) :
    (insertEntry key value entries).map Prod.fst = entries.map Prod.fst := by
  induction entries with
  | nil => exact absurd hMem List.not_mem_nil
  | cons entry entries ih =>
      rw [insertEntry]
      by_cases hSame : entry.1 = key
      · simp [hSame]
      · rcases List.mem_cons.mp hMem with hHere | hLater
        · exact absurd hHere.symm hSame
        · simp [hSame, ih hLater]

/-- A key that is new goes last. -/
theorem insertEntry_of_not_mem {key : κ} (value : ν) {entries : List (κ × ν)}
    (hMem : key ∉ entries.map Prod.fst) :
    insertEntry key value entries = entries ++ [(key, value)] := by
  induction entries with
  | nil => rfl
  | cons entry entries ih =>
      obtain ⟨hHere, hLater⟩ := not_or.mp (mt List.mem_cons.mpr hMem)
      rw [insertEntry, if_neg (Ne.symm hHere), ih hLater]
      rfl

/-- Setting a key that is there leaves the keys and their order alone. -/
theorem keys_insert_of_mem {table : Table κ ν} {key : κ} (value : ν) (hMem : key ∈ table.keys) :
    (table.insert key value).keys = table.keys :=
  map_fst_insertEntry_of_mem hMem

theorem entries_insert_of_not_mem {table : Table κ ν} {key : κ} (value : ν)
    (hMem : key ∉ table.keys) :
    (table.insert key value).entries = table.entries ++ [(key, value)] :=
  insertEntry_of_not_mem value hMem

theorem keys_insert_of_not_mem {table : Table κ ν} {key : κ} (value : ν)
    (hMem : key ∉ table.keys) : (table.insert key value).keys = table.keys ++ [key] := by
  rw [keys, entries_insert_of_not_mem value hMem, List.map_append]
  rfl

/-- Pairs read after others are set over what those have made. -/
theorem ofList_append (front back : List (κ × ν)) :
    ofList (front ++ back) = (ofList front).insertMany back :=
  List.foldl_append

/-- Each key keeps the place at which it was first seen. -/
theorem keys_ofList (pairs : List (κ × ν)) :
    (ofList pairs).keys = (pairs.map Prod.fst).eraseDups := by
  induction pairs using List.reverseRecOn with
  | nil => rfl
  | append_singleton pairs pair ih =>
      have hInsert : ofList (pairs ++ [pair]) = (ofList pairs).insert pair.1 pair.2 :=
        ofList_append pairs [pair]
      rw [hInsert, List.map_append, List.eraseDups_append, ← ih]
      by_cases hSeen : pair.1 ∈ (ofList pairs).keys
      · have hMem : pair.1 ∈ pairs.map Prod.fst := List.mem_eraseDups.mp (ih ▸ hSeen)
        rw [keys_insert_of_mem pair.2 hSeen]
        simp [List.removeAll, hMem]
      · have hMem : pair.1 ∉ pairs.map Prod.fst := fun hMem =>
          hSeen (ih ▸ List.mem_eraseDups.mpr hMem)
        rw [keys_insert_of_not_mem pair.2 hSeen]
        simp [List.removeAll, List.eraseDups_cons, hMem]

/-- Pairs with new keys are put behind what is there. -/
theorem entries_insertMany {table : Table κ ν} {pairs : List (κ × ν)}
    (hNodup : (pairs.map Prod.fst).Nodup) (hFresh : ∀ pair ∈ pairs, pair.1 ∉ table.keys) :
    (table.insertMany pairs).entries = table.entries ++ pairs := by
  induction pairs generalizing table with
  | nil => exact (List.append_nil _).symm
  | cons pair pairs ih =>
      obtain ⟨hHere, hRest⟩ := List.nodup_cons.mp hNodup
      obtain ⟨hPair, hPairs⟩ := List.forall_mem_cons.mp hFresh
      rw [insertMany, List.foldl_cons, ← insertMany, ih hRest]
      · rw [entries_insert_of_not_mem pair.2 hPair, List.append_assoc]
        rfl
      · intro other hOther
        rw [keys_insert_of_not_mem pair.2 hPair, List.mem_append, List.mem_singleton]
        rintro (hMem | hSame)
        · exact hPairs other hOther hMem
        · exact hHere (hSame ▸ List.mem_map_of_mem hOther)

/-- Pairs without repeated keys make a table with just these entries. -/
theorem entries_ofList {pairs : List (κ × ν)} (hNodup : (pairs.map Prod.fst).Nodup) :
    (ofList pairs).entries = pairs :=
  entries_insertMany hNodup fun _ _ => List.not_mem_nil

/-- A table is made again by its own entries, in their order. -/
theorem ofList_entries (table : Table κ ν) : ofList table.entries = table :=
  eq_of_entries (entries_ofList table.keys_nodup)

theorem mem_entries_iff {table : Table κ ν} {key : κ} {value : ν} :
    (key, value) ∈ table.entries ↔ table.get? key = some value :=
  ⟨get?_of_mem_entries, mem_entries_of_get?⟩

/-- A table has nothing but what is looked up for its keys. -/
theorem entries_eq (table : Table κ ν) :
    table.entries =
      table.keys.filterMap fun key => (table.get? key).map fun value => (key, value) := by
  have hLookup : ∀ entry ∈ table.entries,
      (table.get? entry.1).map (fun value => (entry.1, value)) = some entry := by
    intro entry hEntry
    rw [get?_of_mem_entries hEntry]
    rfl
  rw [keys, List.filterMap_map]
  exact List.filterMap_some.symm.trans (List.filterMap_congr hLookup).symm

/-- Tables are told apart by the order of their keys and by what is looked up. The laws of merging
are proved through this, one side at a time. -/
theorem eq_of_keys {table table' : Table κ ν} (hKeys : table.keys = table'.keys)
    (hValues : ∀ key, table.get? key = table'.get? key) : table = table' := by
  refine eq_of_entries ?_
  rw [entries_eq, entries_eq table', hKeys]
  simp only [hValues]

theorem eraseDups_keys (table : Table κ ν) : table.keys.eraseDups = table.keys := by
  rw [keys, ← keys_ofList, ofList_entries, keys]

section Merge

variable (table overrides : Table κ ν)

/-- The second table has precedence. -/
theorem get?_merge (key : κ) :
    (table.merge overrides).get? key = (overrides.get? key).or (table.get? key) := by
  rw [merge, get?_insertMany, ← get?_ofList, ofList_entries]

/-- The keys that are there keep their places, and new ones follow in their own order. -/
theorem keys_merge :
    (table.merge overrides).keys = table.keys ++ overrides.keys.filter (· ∉ table.keys) := by
  have hMerge : table.merge overrides = ofList (table.entries ++ overrides.entries) := by
    rw [ofList_append, ofList_entries, merge]
  have hNew : overrides.keys.removeAll table.keys =
      (overrides.restrict (· ∉ table.keys)).keys := by
    rw [keys_restrict]
    simp [List.removeAll]
  rw [hMerge, keys_ofList, List.map_append, List.eraseDups_append, ← keys, ← keys, hNew,
    eraseDups_keys, eraseDups_keys, keys_restrict]

/-- It is the same whether a key of the second table is set before merging or after. If the second
table has it, it keeps its place in what they merge to; if not, it is set last either way. -/
theorem merge_insert (key : κ) (value : ν) :
    table.merge (overrides.insert key value) = (table.merge overrides).insert key value := by
  -- A new key is the last pair set on both sides; a known one leaves both lists of keys alone.
  by_cases hMem : key ∈ overrides.keys
  · have hMerged : key ∈ (table.merge overrides).keys := by
      rw [keys_merge]
      simp [hMem, em]
    refine eq_of_keys ?_ fun other => ?_
    · rw [keys_insert_of_mem value hMerged, keys_merge, keys_merge, keys_insert_of_mem value hMem]
    · rw [get?_merge, get?_insert, get?_insert, get?_merge]
      split <;> rfl
  · rw [merge, entries_insert_of_not_mem value hMem, insertMany, List.foldl_append]
    rfl

/-- Setting many keys before merging or after comes to the same. -/
theorem merge_insertMany (pairs : List (κ × ν)) :
    table.merge (overrides.insertMany pairs) = (table.merge overrides).insertMany pairs := by
  induction pairs generalizing overrides with
  | nil => rfl
  | cons pair pairs ih =>
      rw [insertMany, List.foldl_cons, ← insertMany, ih, merge_insert]
      rfl

/-- Of three tables it does not matter which two are merged first. -/
theorem merge_assoc (further : Table κ ν) :
    (table.merge overrides).merge further = table.merge (overrides.merge further) :=
  (merge_insertMany table overrides further.entries).symm

/-- Merging a table into itself changes neither values nor places. -/
theorem merge_self : table.merge table = table := by
  refine eq_of_keys ?_ fun key => ?_
  · rw [keys_merge]
    simp
  · rw [get?_merge, Option.or_self]

/-- Merging what two lists make is to read them one behind the other, wherever a longer list is cut
in two. -/
theorem merge_ofList (front back : List (κ × ν)) :
    (ofList front).merge (ofList back) = ofList (front ++ back) := by
  rw [ofList_append]
  exact merge_insertMany (ofList front) empty back

end Merge

end Stencil.Table
