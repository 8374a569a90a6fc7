import Stencil.Discovery
import Stencil.Proofs.Census
import Stencil.Proofs.Values

/-! Which values are put in place after a count: of the values that were given, those that are not
empty and whose keys were counted, in the order of the count. -/

namespace Stencil

namespace Values

/-- The values less the keys whose last value is empty. -/
def withoutBlanks (values : Values) : Values :=
  { values with
    assignments := values.assignments.filter fun assignment =>
      values.effective.get? assignment.key ≠ some "" }

/-- Leaving out the keys whose last value is empty is what a look-up for a run does. -/
theorem get?_withoutBlanks (values : Values) (key : String) :
    values.withoutBlanks.effective.get? key = Discovery.value? values key := by
  have hKeep (assignment : Assignment) :
      decide (decide (values.effective.get? assignment.key ≠ some "") = true ∧
        decide (assignment.key = key) = true) =
      (decide (values.effective.get? key ≠ some "") && decide (assignment.key = key)) := by
    by_cases hKey : assignment.key = key <;> simp [hKey]
  rw [Discovery.value?, get?_effective, withoutBlanks, ← List.filter_reverse, List.find?_filter]
  simp only [hKeep]
  by_cases hBlank : values.effective.get? key = some ""
  · simp only [hBlank, ne_eq, not_true_eq_false, decide_false, Bool.false_and]
    rw [List.find?_eq_none.mpr (by simp), Option.filter_some_neg (by simp)]
    rfl
  · simp only [hBlank, ne_eq, not_false_eq_true, decide_true, Bool.true_and]
    rw [← get?_effective]
    cases hValue : values.effective.get? key with
    | none => rfl
    | some value =>
        have hNe : value ≠ "" := fun hEq => hBlank (hEq ▸ hValue)
        rw [Option.filter_some_pos (by simpa using hNe)]

end Values

namespace Discovery

theorem find?_filterMap {value? : String → Option String} (keys : List String) (key : String) :
    (keys.filterMap fun key => (value? key).map fun value => (⟨key, value⟩ : Assignment)).find?
        (fun assignment => assignment.key = key) =
      if key ∈ keys then (value? key).map fun value => ⟨key, value⟩ else none := by
  induction keys with
  | nil => rfl
  | cons other keys ih =>
      by_cases hKey : other = key
      · subst hKey
        cases hValue : value? other with
        | none => simp [hValue, ih]
        | some value => simp [hValue]
      · cases hValue : value? other with
        | none => simp [hValue, ih, Ne.symm hKey]
        | some value => simp [hValue, ih, hKey, Ne.symm hKey]

@[simp] theorem ignorePatterns_valuesFor (census : Census) (given : Values) :
    (valuesFor census given).ignorePatterns = given.ignorePatterns := by
  rw [valuesFor]
  split <;> rfl

/-- What the passes look up for a key. -/
theorem get?_valuesFor (census : Census) (given : Values) (key : String) :
    (valuesFor census given).effective.get? key =
      if census.isEmpty then given.effective.get? key
      else if key ∈ census.keys then value? given key else none := by
  rw [valuesFor]
  cases census.isEmpty with
  | true => rfl
  | false =>
      rw [if_neg Bool.false_ne_true, if_neg Bool.false_ne_true, Values.get?_effective,
        ← List.filterMap_reverse, find?_filterMap]
      simp only [List.mem_reverse]
      split
      · rw [Option.map_map]
        exact Option.map_id'
      · rfl

variable {census : Census} {given : Values}

/-- The values of a run that reported keys: of what was given those that are not blank and whose
keys were reported, in the ascending order of the keys. -/
structure Sifted (census : Census) (given values : Values) : Prop where
  entries_perm : values.effective.entries.Perm
    (given.withoutBlanks.effective.entries.filter fun entry => entry.1 ∈ census.keys)
  ascends : values.effective.keys.Pairwise (· < ·)
  ignorePatterns_eq : values.ignorePatterns = given.ignorePatterns
  replacements_eq : values.replacements = given.replacements

theorem pairwise_filterMap_fst {keys : List String} (hKeys : keys.Pairwise (· < ·))
    (value? : String → Option String) :
    (keys.filterMap fun key => (value? key).map fun value => (key, value)).Pairwise
      fun entry other => entry.1 < other.1 := by
  refine List.pairwise_filterMap.mpr (hKeys.imp ?_)
  intro key other hLess entry hEntry entry' hEntry'
  obtain ⟨value, -, rfl⟩ := Option.map_eq_some_iff.mp hEntry
  obtain ⟨value', -, rfl⟩ := Option.map_eq_some_iff.mp hEntry'
  exact hLess

theorem nodup_of_ascends {entries : List (String × String)}
    (hAscends : entries.Pairwise fun entry other => entry.1 < other.1) :
    (entries.map Prod.fst).Nodup :=
  List.pairwise_map.mpr (hAscends.imp ne_of_lt)

/-- The values for a run stand in the order of the census. -/
theorem entries_valuesFor (hAscends : census.Ascends) (hFound : census.isEmpty = false)
    (given : Values) :
    (valuesFor census given).effective.entries =
      census.keys.filterMap fun key => (value? given key).map fun value => (key, value) := by
  have hPairs : (valuesFor census given).assignments.map
        (fun assignment => (assignment.key, assignment.value)) =
      census.keys.filterMap fun key => (value? given key).map fun value => (key, value) := by
    rw [valuesFor, hFound, if_neg Bool.false_ne_true, List.map_filterMap]
    simp only [Option.map_map]
    rfl
  rw [Values.effective, hPairs]
  exact Table.entries_ofList (nodup_of_ascends (pairwise_filterMap_fst hAscends _))

/-- The values for a run are sifted from those that were given, as soon as anything was found. -/
theorem sifted_valuesFor (hAscends : census.Ascends) (hFound : census.isEmpty = false)
    (given : Values) : Sifted census given (valuesFor census given) := by
  have hEntries := entries_valuesFor hAscends hFound given
  have hLess := pairwise_filterMap_fst hAscends (value? given)
  rw [← hEntries] at hLess
  refine ⟨?_, List.pairwise_map.mpr hLess, ignorePatterns_valuesFor census given, ?_⟩
  · refine (List.perm_ext_iff_of_nodup (Table.nodup_of_keys (nodup_of_ascends hLess))
      ((Table.nodup_of_keys given.withoutBlanks.effective.keys_nodup).filter _)).mpr ?_
    rintro ⟨key, value⟩
    rw [hEntries, List.mem_filter, Table.mem_entries_iff, Values.get?_withoutBlanks]
    simp [and_comm]
  · rw [valuesFor]
    split <;> rfl

/-- A key that was not counted has no value, whatever was given for it. -/
theorem Sifted.get?_of_unreported {values : Values} (hSifted : Sifted census given values)
    {key : String} (hKey : key ∉ census.keys) : values.effective.get? key = none := by
  refine Option.eq_none_iff_forall_ne_some.mpr fun value hValue => hKey ?_
  have hEntry := hSifted.entries_perm.mem_iff.mp (Table.mem_entries_of_get? hValue)
  simpa using (List.mem_filter.mp hEntry).2

/-- Nothing is lost and nothing changes its place exactly if all that was given is reported, and was
given in ascending order. -/
theorem Sifted.effective_eq_iff {values : Values} (hSifted : Sifted census given values) :
    values.effective = given.withoutBlanks.effective ↔
      given.withoutBlanks.effective.keys.Pairwise (· < ·) ∧
        ∀ key ∈ given.withoutBlanks.effective.keys, key ∈ census.keys := by
  constructor
  · intro hSame
    refine ⟨hSame ▸ hSifted.ascends, fun key hKey => ?_⟩
    by_contra hUnreported
    rw [← hSame] at hKey
    obtain ⟨entry, hEntry, rfl⟩ := List.mem_map.mp hKey
    have hValue : values.effective.get? entry.1 = some entry.2 := Table.get?_of_mem_entries hEntry
    rw [hSifted.get?_of_unreported hUnreported] at hValue
    cases hValue
  · rintro ⟨hAscends, hReported⟩
    have hPerm := hSifted.entries_perm
    rw [List.filter_eq_self.mpr fun entry hEntry => by
      simpa using hReported entry.1 (List.mem_map_of_mem hEntry)] at hPerm
    have hLess : values.effective.entries.Pairwise fun entry other => entry.1 < other.1 :=
      List.pairwise_map.mp hSifted.ascends
    refine Table.eq_of_entries (hPerm.eq_of_pairwise ?_ hLess (List.pairwise_map.mp hAscends))
    exact fun _ _ _ _ hLess hMore => absurd hMore (lt_asymm hLess)

end Discovery

end Stencil
