import Mathlib.Data.List.MinMax
import Mathlib.Data.String.Basic
import Stencil.Disk
import Stencil.Proofs.Occurrence
import Stencil.Proofs.Table

/-! What a change at one location leaves alone: every other location, the working folder, and the
listing of every folder in which the location does not directly lie. -/

namespace Stencil.Disk

theorem get?_of_ne_nil (disk : Disk) {location : Location} (hLocation : location ≠ []) :
    disk.get? location = disk.nodes.get? location := by
  simp [get?, hLocation]

/-- A node is found where it was put. Nothing is put at the top, which is a folder whatever the
nodes say. -/
theorem get?_put_self (disk : Disk) {location : Location} (node : Node)
    (hLocation : location ≠ []) : (disk.put location node).get? location = some node := by
  rw [get?_of_ne_nil _ hLocation, put, Table.get?_insert, if_pos rfl]

theorem get?_put_of_ne (disk : Disk) {location other : Location} (node : Node)
    (hOther : other ≠ location) : (disk.put location node).get? other = disk.get? other := by
  rw [get?, get?, put, Table.get?_insert, if_neg hOther]

theorem get?_erase_self (disk : Disk) {location : Location} (hLocation : location ≠ []) :
    (disk.erase location).get? location = none := by
  rw [get?_of_ne_nil _ hLocation, erase, Table.get?_erase, if_pos rfl]

/-- What lies elsewhere is found as before, also what lies below the location: erasing a folder's
node does not by itself take its contents away. -/
theorem get?_erase_of_ne (disk : Disk) {location other : Location} (hOther : other ≠ location) :
    (disk.erase location).get? other = disk.get? other := by
  rw [get?, get?, erase, Table.get?_erase, if_neg hOther]

@[simp] theorem workingFolder_put (disk : Disk) (location : Location) (node : Node) :
    (disk.put location node).workingFolder = disk.workingFolder := rfl

@[simp] theorem workingFolder_erase (disk : Disk) (location : Location) :
    (disk.erase location).workingFolder = disk.workingFolder := rfl

/-- A location lies directly in a folder under the one name that leads there from it. -/
theorem childName?_eq_some_iff {folder location : Location} {name : Name} :
    childName? folder location = some name ↔ location = folder ++ [name] := by
  rw [childName?, ← Occurrence.afterFront?_eq_some_iff]
  cases Occurrence.afterFront? folder location with
  | none => simp
  | some after =>
      match after with
      | [] => simp
      | [only] => simp
      | first :: second :: rest => simp

theorem childName?_eq_none_iff {folder location : Location} :
    childName? folder location = none ↔ ∀ name, location ≠ folder ++ [name] := by
  simp only [Option.eq_none_iff_forall_ne_some, Ne, childName?_eq_some_iff]

/-- Sorting a name in loses none and adds no other. -/
theorem insertName_perm (name : Name) (names : List Name) :
    (insertName name names).Perm (name :: names) := by
  induction names with
  | nil => rfl
  | cons other names ih =>
      rw [insertName]
      split
      · rfl
      · exact (ih.cons other).trans (List.Perm.swap name other names)

/-- A listing is the names of the nodes directly in the folder, in another order. -/
theorem listing_perm (disk : Disk) (folder : Location) :
    (disk.listing folder).Perm (disk.nodes.keys.filterMap (childName? folder)) := by
  rw [listing]
  induction disk.nodes.keys.filterMap (childName? folder) with
  | nil => rfl
  | cons name names ih => exact (insertName_perm name _).trans (ih.cons name)

/-- What a folder lists is what has a node directly below it: the nodes alone tell the contents of
folders, and nothing is kept with the folder itself. -/
theorem mem_listing_iff {disk : Disk} {folder : Location} {name : Name} :
    name ∈ disk.listing folder ↔ folder ++ [name] ∈ disk.nodes.keys := by
  simp [(disk.listing_perm folder).mem_iff, childName?_eq_some_iff]

theorem mem_keys_of_get? {disk : Disk} {location : Location} (hLocation : location ≠ [])
    (hNode : disk.get? location ≠ none) : location ∈ disk.nodes.keys := by
  obtain ⟨node, hSome⟩ := Option.ne_none_iff_exists'.mp hNode
  rw [get?_of_ne_nil disk hLocation] at hSome
  exact List.mem_map_of_mem (Table.mem_entries_of_get? hSome)

/-- The depth bounds every location that has a node, so it is fuel enough for a descent. -/
theorem length_le_depth {disk : Disk} {location : Location} (hMem : location ∈ disk.nodes.keys) :
    location.length ≤ disk.depth := by
  rw [depth, ← List.foldr_eq_foldl]
  exact List.le_max_of_le' _ (List.mem_map_of_mem hMem) le_rfl

/-- A listing depends on nothing but the keys of the nodes. -/
theorem listing_congr {disk disk' : Disk} {folder : Location}
    (hKeys : disk'.nodes.keys.filterMap (childName? folder) =
      disk.nodes.keys.filterMap (childName? folder)) :
    disk'.listing folder = disk.listing folder := by
  rw [listing, listing, hKeys]

/-- A node that takes the place of another changes no listing. -/
theorem listing_put_of_mem (disk : Disk) {location : Location} (node : Node)
    (hMem : location ∈ disk.nodes.keys) (folder : Location) :
    (disk.put location node).listing folder = disk.listing folder := by
  apply listing_congr
  rw [put, Table.keys_insert_of_mem node hMem]

/-- A new node shows only in the listing of the folder in which it directly lies. -/
theorem listing_put_of_not_child (disk : Disk) {location folder : Location} (node : Node)
    (hChild : ∀ name, location ≠ folder ++ [name]) :
    (disk.put location node).listing folder = disk.listing folder := by
  by_cases hMem : location ∈ disk.nodes.keys
  · exact disk.listing_put_of_mem node hMem folder
  · apply listing_congr
    rw [put, Table.keys_insert_of_not_mem node hMem, List.filterMap_append]
    simp [childName?_eq_none_iff.mpr hChild]

/-- A node that is gone is missed only in the listing of the folder in which it directly lay. -/
theorem listing_erase_of_not_child (disk : Disk) {location folder : Location}
    (hChild : ∀ name, location ≠ folder ++ [name]) :
    (disk.erase location).listing folder = disk.listing folder := by
  apply listing_congr
  rw [erase, Table.erase, Table.keys_restrict, List.filterMap_filter]
  apply List.filterMap_congr
  intro other _
  by_cases hSame : other = location
  · simp [hSame, childName?_eq_none_iff.mpr hChild]
  · simp [hSame]

/-- No name is listed twice, since no location has two nodes. -/
theorem nodup_listing (disk : Disk) (folder : Location) : (disk.listing folder).Nodup := by
  rw [(disk.listing_perm folder).nodup_iff]
  refine List.Pairwise.filterMap (childName? folder) ?_ disk.nodes.keys_nodup
  intro first second hNe name hFirst name' hSecond hSame
  rw [childName?_eq_some_iff.mp hFirst, childName?_eq_some_iff.mp hSecond, hSame] at hNe
  exact hNe rfl

theorem Name.text_injective {first second : Name} (hText : first.text = second.text) :
    first = second := by
  cases first
  cases second
  cases hText
  rfl

/-- A name is sorted in before the first that is not less. -/
theorem pairwise_insertName {name : Name} {names : List Name}
    (hNames : names.Pairwise fun first second => first.text ≤ second.text) :
    (insertName name names).Pairwise fun first second => first.text ≤ second.text := by
  induction names with
  | nil => exact List.pairwise_singleton _ _
  | cons other names ih =>
      obtain ⟨hOther, hRest⟩ := List.pairwise_cons.mp hNames
      rw [insertName]
      split
      · next hLess =>
          refine List.pairwise_cons.mpr ⟨?_, hNames⟩
          intro later hMem
          rcases List.mem_cons.mp hMem with rfl | hMem
          · exact hLess.le
          · exact hLess.le.trans (hOther later hMem)
      · next hLess =>
          refine List.pairwise_cons.mpr ⟨?_, ih hRest⟩
          intro later hMem
          rcases List.mem_cons.mp ((insertName_perm name names).mem_iff.mp hMem) with rfl | hMem
          · exact not_lt.mp hLess
          · exact hOther later hMem

/-- Names are listed in strictly ascending order. -/
theorem pairwise_listing (disk : Disk) (folder : Location) :
    (disk.listing folder).Pairwise fun first second => first.text < second.text := by
  have hOrder : (disk.listing folder).Pairwise fun first second =>
      first.text ≤ second.text := by
    rw [listing]
    induction disk.nodes.keys.filterMap (childName? folder) with
    | nil => exact List.Pairwise.nil
    | cons name names ih => exact pairwise_insertName ih
  refine hOrder.imp₂ ?_ (disk.nodup_listing folder)
  intro first second hLe hNe
  exact lt_of_le_of_ne hLe fun hText => hNe (Name.text_injective hText)

end Stencil.Disk
