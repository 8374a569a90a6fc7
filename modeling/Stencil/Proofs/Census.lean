import Mathlib.Data.String.Basic
import Stencil.Census

/-! What a census holds after keys were recorded: each of them, as often as it was recorded, and
as many counts in all as there were keys. -/

namespace Stencil.Census

/-- Recording a key adds one to the total, also for a key that is new. -/
theorem total_record (census : Census) (key : String) :
    (census.record key).total = census.total + 1 := by
  obtain ⟨counts⟩ := census
  simp only [record, total]
  induction counts with
  | nil => rfl
  | cons entry counts ih =>
      obtain ⟨other, count⟩ := entry
      rw [recordIn]
      split
      · simp only [List.foldr_cons]
        omega
      · split
        · simp only [List.foldr_cons]
          omega
        · simp only [List.foldr_cons, ih]
          omega

/-- The total grows by the number of keys that are recorded. -/
theorem total_recordAll (census : Census) (keys : List String) :
    (census.recordAll keys).total = census.total + keys.length := by
  induction keys generalizing census with
  | nil => rfl
  | cons key keys ih =>
      change ((census.record key).recordAll keys).total = _
      rw [ih, total_record, List.length_cons]
      omega

/-- A key is counted if it was recorded now or before. -/
theorem mem_keys_record {census : Census} {key other : String} :
    other ∈ (census.record key).keys ↔ other = key ∨ other ∈ census.keys := by
  obtain ⟨counts⟩ := census
  simp only [record, keys]
  induction counts with
  | nil => simp [recordIn]
  | cons entry counts ih =>
      obtain ⟨first, count⟩ := entry
      rw [recordIn]
      split
      · next hSame => simp [hSame]
      · split
        · simp
        · simp only [List.map_cons, List.mem_cons, ih]
          exact or_left_comm

theorem mem_keys_recordAll {census : Census} {keys : List String} {key : String} :
    key ∈ (census.recordAll keys).keys ↔ key ∈ keys ∨ key ∈ census.keys := by
  induction keys generalizing census with
  | nil => simp [recordAll]
  | cons first keys ih =>
      change key ∈ ((census.record first).recordAll keys).keys ↔ _
      rw [ih, mem_keys_record, List.mem_cons, or_left_comm, or_assoc]

/-- The keys ascend, so that no key is counted in two places. -/
def Ascends (census : Census) : Prop := census.keys.Pairwise (· < ·)

theorem ascends_empty : empty.Ascends := List.Pairwise.nil

/-- A new key is put in where it keeps the order. -/
theorem ascends_record {census : Census} (key : String) (hAscends : census.Ascends) :
    (census.record key).Ascends := by
  obtain ⟨counts⟩ := census
  induction counts with
  | nil => exact List.pairwise_singleton _ key
  | cons entry counts ih =>
      obtain ⟨other, count⟩ := entry
      obtain ⟨hFirst, hRest⟩ := List.pairwise_cons.mp hAscends
      simp only [record, Ascends, recordIn]
      split
      · exact hAscends
      next hOther =>
      split
      · next hLess =>
          refine List.pairwise_cons.mpr ⟨fun later hLater => ?_, hAscends⟩
          rcases List.mem_cons.mp hLater with rfl | hLater
          · exact hLess
          · exact lt_trans hLess (hFirst later hLater)
      · next hLess =>
          refine List.pairwise_cons.mpr ⟨fun later hLater => ?_, ih hRest⟩
          have hRecorded : later ∈ (record ⟨counts⟩ key).keys := hLater
          rcases mem_keys_record.mp hRecorded with rfl | hLater
          · exact lt_of_le_of_ne (not_lt.mp hLess) (Ne.symm hOther)
          · exact hFirst later hLater

theorem ascends_recordAll {census : Census} (keys : List String) (hAscends : census.Ascends) :
    (census.recordAll keys).Ascends := by
  induction keys generalizing census with
  | nil => exact hAscends
  | cons key keys ih => exact ih (ascends_record key hAscends)

theorem count_cons (first : String) (n : Nat) (counts : List (String × Nat)) (key : String) :
    count ⟨(first, n) :: counts⟩ key = if key = first then n else count ⟨counts⟩ key := by
  simp only [count, List.lookup_cons]
  by_cases hSame : key = first
  · simp [hSame]
  · simp [beq_eq_false_iff_ne.mpr hSame, hSame]

theorem count_eq_zero {census : Census} {key : String} (hKey : key ∉ census.keys) :
    census.count key = 0 := by
  obtain ⟨counts⟩ := census
  induction counts with
  | nil => rfl
  | cons entry counts ih =>
      obtain ⟨hFirst, hRest⟩ := not_or.mp (mt List.mem_cons.mpr hKey)
      rw [count_cons, if_neg hFirst, ih hRest]

/-- Recording raises the count of its own key by one and no other. The order is needed, since a key
is looked for only up to the first that is greater. -/
theorem count_record {census : Census} (hAscends : census.Ascends) (key other : String) :
    (census.record key).count other = census.count other + if other = key then 1 else 0 := by
  obtain ⟨counts⟩ := census
  simp only [record]
  induction counts with
  | nil =>
      rw [recordIn, count_cons]
      exact (Nat.zero_add _).symm
  | cons entry counts ih =>
      obtain ⟨first, n⟩ := entry
      obtain ⟨hFirst, hRest⟩ := List.pairwise_cons.mp hAscends
      rw [recordIn]
      split
      · next hHere =>
          subst hHere
          rw [count_cons, count_cons]
          split <;> rfl
      next hHere =>
      split
      · next hLess =>
          -- the key is new, as all others come behind it
          have hFresh : key ∉ (⟨(first, n) :: counts⟩ : Census).keys := by
            intro hMem
            rcases List.mem_cons.mp hMem with hMem | hMem
            · exact hHere hMem
            · exact lt_asymm hLess (hFirst key hMem)
          rw [count_cons]
          split
          · next hSame => rw [hSame, count_eq_zero hFresh]
          · rfl
      · rw [count_cons, count_cons, ih hRest]
        split
        · next hSame => rw [if_neg fun hKey => hHere (hKey.symm.trans hSame), Nat.add_zero]
        · rfl

/-- A key gains as many counts as there are records of it. -/
theorem count_recordAll {census : Census} (hAscends : census.Ascends) (keys : List String)
    (key : String) :
    (census.recordAll keys).count key = census.count key + keys.count key := by
  induction keys generalizing census with
  | nil => rfl
  | cons first keys ih =>
      change ((census.record first).recordAll keys).count key = _
      rw [ih (ascends_record first hAscends), count_record hAscends, List.count_cons]
      simp only [beq_iff_eq, eq_comm (a := first)]
      omega

theorem isEmpty_iff_keys {census : Census} : census.isEmpty = true ↔ census.keys = [] := by
  simp [isEmpty, keys]

/-- A census holds its keys with their counts and nothing else. -/
theorem counts_eq_map {census : Census} (hAscends : census.Ascends) :
    census.counts = census.keys.map fun key => (key, census.count key) := by
  obtain ⟨counts⟩ := census
  induction counts with
  | nil => rfl
  | cons entry counts ih =>
      obtain ⟨first, n⟩ := entry
      obtain ⟨hFirst, hRest⟩ := List.pairwise_cons.mp hAscends
      have hLater : ∀ key ∈ keys ⟨counts⟩,
          count ⟨(first, n) :: counts⟩ key = count ⟨counts⟩ key := by
        intro key hMem
        rw [count_cons, if_neg (ne_of_gt (hFirst key hMem))]
      have hHere : count ⟨(first, n) :: counts⟩ first = n := by
        rw [count_cons, if_pos rfl]
      change (first, n) :: counts = (first, _) :: (keys ⟨counts⟩).map _
      rw [hHere, List.map_congr_left fun key hMem => by rw [hLater key hMem], ← ih hRest]

/-- A census is settled by its keys and by how often each was counted. -/
theorem eq_of_count_eq {first second : Census} (hFirst : first.Ascends) (hSecond : second.Ascends)
    (hKeys : ∀ key, key ∈ first.keys ↔ key ∈ second.keys)
    (hCount : ∀ key, first.count key = second.count key) : first = second := by
  have hSame : first.keys = second.keys := by
    refine List.Perm.eq_of_pairwise (fun _ _ _ _ hLess hMore => absurd hLess (lt_asymm hMore))
      hFirst hSecond ((List.perm_ext_iff_of_nodup ?_ ?_).mpr hKeys)
    · exact hFirst.imp fun hLess => ne_of_lt hLess
    · exact hSecond.imp fun hLess => ne_of_lt hLess
  have hCounts : first.counts = second.counts := by
    rw [counts_eq_map hFirst, counts_eq_map hSecond, hSame]
    simp only [hCount]
  cases first
  cases second
  exact congrArg Census.mk hCounts

/-- The order in which keys were recorded is forgotten. -/
theorem recordAll_perm {census : Census} {keys keys' : List String} (hAscends : census.Ascends)
    (hPerm : keys.Perm keys') : census.recordAll keys = census.recordAll keys' := by
  refine eq_of_count_eq (ascends_recordAll keys hAscends) (ascends_recordAll keys' hAscends)
    (fun key => ?_) fun key => ?_
  · rw [mem_keys_recordAll, mem_keys_recordAll, hPerm.mem_iff]
  · rw [count_recordAll hAscends, count_recordAll hAscends, hPerm.count_eq]

end Stencil.Census
