import Stencil.Proofs.Disk.Steps
import Stencil.Proofs.Walk.Eligible

/-! The folders that a walk enters, and the entries that it looks at: all those of the folders it
enters. What the path of an entry leads to is what the walk goes by. -/

namespace Stencil.Walk

/-- The folders that a walk of a disk enters, each with its path from the root. -/
inductive Entered (filter : Filter) (disk : Disk) (root : Location) : Path → Location → Prop
  | root : Entered filter disk root ⟨""⟩ root
  | enter {relative : Path} {folder : Location} {name : Name}
      (hAbove : Entered filter disk root relative folder)
      (hFolder : disk.get? (folder ++ [name]) = some .folder)
      (hPassed : filter.check (relative.join name.text) true 0 = .eligible) :
      Entered filter disk root (relative.join name.text) (folder ++ [name])

theorem not_skipped_of_check {filter : Filter} {relative : Path} {name : Name}
    (hPassed : filter.check (relative.join name.text) true 0 = .eligible) :
    Filter.isSkippedFolder name.text = false := by
  have hName := (Filter.check_folder_eq_eligible_iff.mp hPassed).2
  rw [Path.fileName?_join] at hName
  exact hName

/-- An entered folder lies at the root or below it, and below no folder that is never entered. -/
theorem Entered.exists_append {filter : Filter} {disk : Disk} {root folder : Location}
    {relative : Path} (hEntered : Entered filter disk root relative folder) :
    ∃ front, folder = root ++ front ∧
      ∀ name ∈ front, Filter.isSkippedFolder name.text = false := by
  induction hEntered with
  | root => exact ⟨[], (List.append_nil root).symm, fun _ hMem => absurd hMem List.not_mem_nil⟩
  | @enter relative folder name _ _ hPassed ih =>
      obtain ⟨front, rfl, hFront⟩ := ih
      refine ⟨front ++ [name], by rw [List.append_assoc], fun other hMem => ?_⟩
      rcases List.mem_append.mp hMem with hMem | hMem
      · exact hFront other hMem
      · rw [List.mem_singleton.mp hMem]
        exact not_skipped_of_check hPassed

/-- An entry that a walk looks at: `name` in the folder that these names lead to. -/
structure Meets (filter : Filter) (disk : Disk) (base : Location) (names : List Name)
    (name : Name) : Prop where
  entered : Entered filter disk base (Path.descend ⟨""⟩ names) (base ++ names)
  listed : name ∈ disk.listing (base ++ names)

section Itinerary

variable {plan : Plan} {disk : Disk} {links height : Nat} {root path relative relative' : Path}
  {base folder : Location} {names : List Name} {name other : Name} {verdict : Verdict}

theorem enter_of_entered (hRoot : disk.enter root.address = .ok (base, links))
    (hEntered : Entered plan.filter disk base relative folder) :
    ∃ names, relative = Path.descend ⟨""⟩ names ∧ folder = base ++ names ∧
      disk.enter (root.descend names).address = .ok (folder, links) := by
  induction hEntered with
  | root => exact ⟨[], rfl, (List.append_nil base).symm, hRoot⟩
  | @enter relative folder name _ hFolder _ ih =>
      obtain ⟨names, rfl, rfl, hEnter⟩ := ih
      refine ⟨names ++ [name], (Path.descend_concat _ _ _).symm, List.append_assoc _ _ _, ?_⟩
      rw [Path.descend_concat]
      exact Disk.enter_join hEnter hFolder

/-- The path of an entry leads to what the walk finds there. -/
theorem Meets.node_eq (hRoot : disk.enter root.address = .ok (base, links))
    (hMeets : Meets plan.filter disk base names name) :
    disk.node (root.descend (names ++ [name])).address =
      disk.node ⟨base ++ names, [.enter name], links⟩ := by
  obtain ⟨names', -, hSame, hEnter⟩ := enter_of_entered hRoot hMeets.entered
  obtain rfl := List.append_cancel_left hSame
  rw [Path.descend_concat, Disk.node_join hEnter]

theorem meets_of_mem_itinerary
    (hEntered : Entered plan.filter disk base (Path.descend ⟨""⟩ names) (base ++ names))
    (hMem : Waypoint.entry path relative folder name verdict ∈ itinerary plan disk links height
      (root.descend names) (Path.descend ⟨""⟩ names) (base ++ names)) :
    ∃ names, Meets plan.filter disk base names name ∧ path = root.descend names ∧
      relative = Path.descend ⟨""⟩ names ∧ folder = base ++ names := by
  induction height generalizing names with
  | zero => exact absurd hMem List.not_mem_nil
  | succ height ih =>
      rcases List.mem_cons.mp hMem with hNames | hMem
      · cases hNames
      · rcases List.mem_append.mp hMem with hHere | hBelow
        · obtain ⟨other, hListed, hPoint⟩ := List.mem_map.mp hHere
          cases hPoint
          exact ⟨names, ⟨hEntered, hListed⟩, rfl, rfl, rfl⟩
        · obtain ⟨next, hNext, hInner⟩ := List.mem_flatMap.mp hBelow
          obtain ⟨hFolder, hPassed⟩ :=
            Plan.judge_eq_folder_iff.mp (of_decide_eq_true (List.mem_filter.mp hNext).2)
          have hInside := hEntered.enter hFolder hPassed
          rw [← Path.descend_concat, List.append_assoc] at hInside
          rw [← Path.descend_concat, ← Path.descend_concat, List.append_assoc] at hInner
          exact ih hInside hInner

/-- A walk looks at the entries of each folder among those it looks at and enters, unless the folder
lies too deep for it. -/
theorem mem_itinerary_below (hFolder : Waypoint.entry path relative folder name .folder ∈
      itinerary plan disk links height root relative' base)
    (hHeight : folder.length + 1 < base.length + height)
    (hListed : other ∈ disk.listing (folder ++ [name])) :
    .entry (path.join name.text) (relative.join name.text) (folder ++ [name]) other
        (plan.look disk links (path.join name.text) (relative.join name.text) (folder ++ [name])
          other) ∈
      itinerary plan disk links height root relative' base := by
  induction height generalizing root relative' base with
  | zero => exact absurd hFolder List.not_mem_nil
  | succ height ih =>
      rw [itinerary] at hFolder ⊢
      refine List.mem_cons_of_mem _ (List.mem_append_right _ (List.mem_flatMap.mpr ?_))
      rcases List.mem_cons.mp hFolder with hNames | hFolder
      · cases hNames
      · rcases List.mem_append.mp hFolder with hHere | hBelow
        · obtain ⟨next, hNext, hPoint⟩ := List.mem_map.mp hHere
          obtain ⟨rfl, rfl, rfl, rfl, hLook⟩ := Waypoint.entry.inj hPoint
          refine ⟨next, List.mem_filter.mpr ⟨hNext, decide_eq_true hLook⟩, ?_⟩
          obtain ⟨lower, rfl⟩ : ∃ lower, height = lower + 1 := ⟨height - 1, by omega⟩
          exact List.mem_cons_of_mem _ (List.mem_append_left _ (List.mem_map_of_mem hListed))
        · obtain ⟨next, hNext, hInner⟩ := List.mem_flatMap.mp hBelow
          refine ⟨next, hNext, ih hInner ?_⟩
          rw [List.length_append, List.length_singleton]
          omega

theorem mem_itinerary_of_entered (links : Nat) (root : Path)
    (hEntered : Entered plan.filter disk base relative folder) :
    ∃ names, relative = Path.descend ⟨""⟩ names ∧ folder = base ++ names ∧
      ∀ name ∈ disk.listing folder,
        .entry (root.descend names) relative folder name
            (plan.look disk links (root.descend names) relative folder name) ∈
          itinerary plan disk links (disk.depth + 1) root ⟨""⟩ base := by
  induction hEntered with
  | root =>
      refine ⟨[], rfl, (List.append_nil base).symm, fun name hListed => ?_⟩
      exact List.mem_cons_of_mem _ (List.mem_append_left _ (List.mem_map_of_mem hListed))
  | @enter relative folder name _ hFolder hPassed ih =>
      obtain ⟨names, rfl, rfl, hHere⟩ := ih
      refine ⟨names ++ [name], (Path.descend_concat _ _ _).symm, List.append_assoc _ _ _, ?_⟩
      intro other hListed
      have hLook : plan.look disk links (root.descend names) (Path.descend ⟨""⟩ names)
          (base ++ names) name = .folder := Plan.judge_eq_folder_iff.mpr ⟨hFolder, hPassed⟩
      have hEntry := hHere name (mem_listing_of_get? (hFolder ▸ Option.some_ne_none _))
      rw [hLook] at hEntry
      rw [Path.descend_concat]
      refine mem_itinerary_below hEntry ?_ hListed
      have hDepth := Disk.length_le_depth (Disk.mem_listing_iff.mp hListed)
      simp only [List.length_append, List.length_singleton] at hDepth ⊢
      omega

theorem Meets.mem_itinerary (links : Nat) (root : Path)
    (hMeets : Meets plan.filter disk base names name) :
    .entry (root.descend names) (Path.descend ⟨""⟩ names) (base ++ names) name
        (plan.look disk links (root.descend names) (Path.descend ⟨""⟩ names) (base ++ names) name) ∈
      itinerary plan disk links (disk.depth + 1) root ⟨""⟩ base := by
  obtain ⟨names', -, hSame, hHere⟩ := mem_itinerary_of_entered links root hMeets.entered
  obtain rfl := List.append_cancel_left hSame
  exact hHere name hMeets.listed

/-- A walk looks at all entries of the folders it enters, and at nothing else. -/
theorem mem_itinerary_entry_iff :
    Waypoint.entry path relative folder name verdict ∈
        itinerary plan disk links (disk.depth + 1) root ⟨""⟩ base ↔
      ∃ names, Meets plan.filter disk base names name ∧ path = root.descend names ∧
        relative = Path.descend ⟨""⟩ names ∧ folder = base ++ names ∧
        plan.look disk links path relative folder name = verdict := by
  constructor
  · intro hMem
    have hLook := holds_of_mem_itinerary hMem
    have hStart : Entered plan.filter disk base (Path.descend ⟨""⟩ []) (base ++ []) := by
      rw [List.append_nil]
      exact .root
    rw [← List.append_nil base] at hMem
    obtain ⟨names, hMeets, hPath, hRelative, hFolder⟩ := meets_of_mem_itinerary hStart hMem
    exact ⟨names, hMeets, hPath, hRelative, hFolder, hLook⟩
  · rintro ⟨names, hMeets, rfl, rfl, rfl, rfl⟩
    exact hMeets.mem_itinerary links root

end Itinerary

end Stencil.Walk
