import Stencil.Disk.Files
import Stencil.Proofs.Disk.Resolution

/-! Disks without links. There the address of an entry leads to the entry itself, so that what
a read, a write or a removal does is told by what stands at one location. -/

namespace Stencil

/-- Whether a node is a link. -/
def Node.isLink : Node → Bool
  | .link _ => true
  | _ => false

namespace Disk

/-- No location holds a link. -/
def LinkFree (disk : Disk) : Prop := ∀ location target, disk.get? location ≠ some (.link target)

/-- Whether a disk is free of links can be told from its nodes. The top counts for none. -/
theorem linkFree_iff {disk : Disk} :
    disk.LinkFree ↔
      ∀ entry ∈ disk.nodes.entries, entry.1 ≠ [] → entry.2.isLink = false := by
  constructor
  · rintro hFree ⟨location, node⟩ hMem hLocation
    cases node with
    | link target =>
        refine absurd ?_ (hFree location target)
        rw [get?_of_ne_nil disk hLocation]
        exact Table.get?_of_mem_entries hMem
    | file content => rfl
    | folder => rfl
  · intro hEntries location target hLink
    by_cases hLocation : location = []
    · simp [get?, hLocation] at hLink
    · rw [get?_of_ne_nil disk hLocation] at hLink
      have hNode := hEntries _ (Table.mem_entries_of_get? hLink) hLocation
      cases hNode

instance (disk : Disk) : Decidable disk.LinkFree := decidable_of_iff' _ linkFree_iff

section Entry

variable {disk : Disk} {folder : Location} {name : Name} {links : Nat}

/-- Without links a name leads to the node that bears it, and nowhere else. -/
theorem node_enter (hFree : disk.LinkFree) :
    disk.node ⟨folder, [.enter name], links⟩ =
      match disk.get? (folder ++ [name]) with
      | none => .error .missing
      | some node => .ok node := by
  rw [node, follow, find_enter (hFree _)]
  cases disk.get? (folder ++ [name]) <;> rfl

theorem node_enter_eq_ok_iff (hFree : disk.LinkFree) {node : Node} :
    disk.node ⟨folder, [.enter name], links⟩ = .ok node ↔
      disk.get? (folder ++ [name]) = some node := by
  rw [node_enter hFree]
  cases disk.get? (folder ++ [name]) <;> simp

/-- A write to an entry that is no folder. -/
theorem write_enter (hFree : disk.LinkFree) (content : Bytes)
    (hFolder : disk.get? (folder ++ [name]) ≠ some .folder) :
    disk.write ⟨folder, [.enter name], links⟩ content =
      .ok (disk.put (folder ++ [name]) (.file content)) := by
  rw [write, follow, find_enter (hFree _)]
  cases hNode : disk.get? (folder ++ [name]) with
  | none => rfl
  | some node =>
      cases node with
      | file old => rfl
      | link target => exact absurd hNode (hFree _ target)
      | folder => exact absurd hNode hFolder

/-- Without links there is a folder just where a node says so. -/
theorem hasFolder_enter_iff (hFree : disk.LinkFree) :
    disk.hasFolder ⟨folder, [.enter name], links⟩ = true ↔
      disk.get? (folder ++ [name]) = some .folder := by
  rw [hasFolder, node_enter hFree]
  cases disk.get? (folder ++ [name]) with
  | none => simp
  | some node => cases node <;> simp

/-- Without links a file is removed from where its path says. -/
theorem remove_enter (hFree : disk.LinkFree) {content : Bytes}
    (hFile : disk.get? (folder ++ [name]) = some (.file content)) :
    disk.remove ⟨folder, [.enter name], links⟩ = .ok (disk.erase (folder ++ [name])) := by
  rw [remove, reach, find_enter (hFree _), hFile]

end Entry

/-- No link comes with a change of one location that puts none there. -/
theorem LinkFree.of_get?_eq {disk after : Disk} (hFree : disk.LinkFree) {location : Location}
    (hElse : ∀ other, other ≠ location → after.get? other = disk.get? other)
    (hHere : ∀ target, after.get? location ≠ some (.link target)) : after.LinkFree := by
  intro other
  by_cases hSame : other = location
  · rw [hSame]
    exact hHere
  · rw [hElse other hSame]
    exact hFree other

/-- No link comes with new contents of files. -/
theorem LinkFree.of_sameShape {disk after : Disk} (hFree : disk.LinkFree)
    (hShape : disk.SameShape after) : after.LinkFree := by
  intro location target hLink
  have hSame := hShape.shape location
  rw [hLink, Option.map_some] at hSame
  obtain ⟨node, hNode, hLinked⟩ := Option.map_eq_some_iff.mp hSame.symm
  cases node with
  | link target => exact hFree location target hNode
  | file content => cases hLinked
  | folder => cases hLinked

/-- Writing a file makes no link. -/
theorem LinkFree.put {disk : Disk} (hFree : disk.LinkFree) (location : Location) (content : Bytes) :
    (disk.put location (.file content)).LinkFree := by
  refine hFree.of_get?_eq (fun _ hOther => get?_put_of_ne _ _ hOther) fun target => ?_
  by_cases hRoot : location = []
  · simp [get?, hRoot]
  · simp [get?_put_self _ _ hRoot]

/-- Removing a node makes no link. -/
theorem LinkFree.erase {disk : Disk} (hFree : disk.LinkFree) (location : Location) :
    (disk.erase location).LinkFree := by
  refine hFree.of_get?_eq (fun _ hOther => get?_erase_of_ne _ hOther) fun target => ?_
  by_cases hRoot : location = []
  · simp [get?, hRoot]
  · simp [get?_erase_self _ hRoot]

end Disk

end Stencil
