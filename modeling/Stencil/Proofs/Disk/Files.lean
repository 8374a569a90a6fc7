import Stencil.Proofs.Disk.Way

/-! What is written is what is read, whatever links lead to it, and what is removed is not found
any more. A path that leads over the removed entry leads nowhere either. -/

namespace Stencil.Disk

/-- Whether what stands at an address is itself a link. -/
def hasLink (disk : Disk) (address : Address) : Bool :=
  match disk.reach address with
  | .ok (.taken _ (.link _) _) => true
  | _ => false

/-- An address leads to a file, or to a free place for one. -/
def Accepts (disk : Disk) (address : Address) (location : Location) : Prop :=
  disk.follow address = .ok (.free location false) ∨
    ∃ old links, disk.follow address = .ok (.taken location (.file old) links)

theorem write_eq_ok_iff {disk written : Disk} {address : Address} {content : Bytes} :
    disk.write address content = .ok written ↔
      ∃ location, disk.Accepts address location ∧ written = disk.put location (.file content) := by
  rw [write]
  constructor
  · intro hWrite
    split at hWrite
    · next location old links hFollow =>
        exact ⟨location, .inr ⟨old, links, hFollow⟩, (Except.ok.inj hWrite).symm⟩
    · cases hWrite
    · next location hFollow => exact ⟨location, .inl hFollow, (Except.ok.inj hWrite).symm⟩
    · cases hWrite
    · cases hWrite
  · rintro ⟨location, hFollow | ⟨old, links, hFollow⟩, rfl⟩ <;> rw [hFollow]

namespace Accepts

variable {disk : Disk} {address : Address} {location : Location}

theorem write (hAccepts : disk.Accepts address location) (content : Bytes) :
    disk.write address content = .ok (disk.put location (.file content)) :=
  write_eq_ok_iff.mpr ⟨location, hAccepts, rfl⟩

/-- Neither a folder nor a link stands where a write goes. -/
theorem plain (hAccepts : disk.Accepts address location) :
    ∀ node, disk.get? location = some node → ∃ old, node = .file old := by
  intro node hNode
  rcases hAccepts with hFollow | ⟨old, links, hFollow⟩
  · rw [get?_of_find_free hFollow] at hNode
    cases hNode
  · rw [get?_of_find hFollow nofun] at hNode
    exact ⟨old, (Option.some.inj hNode).symm⟩

theorem ne_nil (hAccepts : disk.Accepts address location) : location ≠ [] :=
  ne_nil_of_plain hAccepts.plain

/-- After a write its address leads to a file with what was written. -/
theorem follow_put (hAccepts : disk.Accepts address location) (content : Bytes) :
    ∃ links, (disk.put location (.file content)).follow address =
      .ok (.taken location (.file content) links) := by
  have hHere := get?_put_self disk (.file content) hAccepts.ne_nil
  rcases hAccepts with hFollow | ⟨old, links, hFollow⟩
  · exact find_put_of_free hFollow
  · have hShape := sameShape_put (get?_of_find hFollow nofun) content
    obtain ⟨new, hNew⟩ := follow_of_sameShape hShape.symm hFollow
    have hContent := Option.some.inj ((get?_of_find hNew nofun).symm.trans hHere)
    exact ⟨links, hContent ▸ hNew⟩

/-- A write changes no way. -/
theorem way_put (hAccepts : disk.Accepts address location) (content : Bytes) (other : Address) :
    (disk.put location (.file content)).way other = disk.way other :=
  wayFrom_put hAccepts.plain true other.links other.folder other.steps

/-- What was found before a write is found after it. -/
theorem find_put (hAccepts : disk.Accepts address location) (content : Bytes) {through : Bool}
    {links links' : Nat} {folder place : Location} {steps : List Step} {node : Node}
    (hFind : disk.find through links folder steps = .ok (.taken place node links')) :
    ∃ node', (disk.put location (.file content)).find through links folder steps =
        .ok (.taken place node' links') ∧ node'.shape = node.shape := by
  cases hNode : disk.get? location with
  | some here =>
      obtain ⟨old, rfl⟩ := hAccepts.plain here hNode
      exact find_of_sameShape (sameShape_put hNode content) hFind
  | none =>
      -- Nothing that is found has a free place on its way.
      have hOff : location ∉ disk.wayFrom through links folder steps := by
        intro hWay
        rcases find_of_gone rfl (fun _ _ => rfl) hNode hWay with hNone | ⟨_, _, hNone⟩ <;>
          simp [hNone] at hFind
      refine ⟨node, ?_, rfl⟩
      rw [find_congr (disk.workingFolder_put _ _), hFind]
      intro other hOther
      exact get?_put_of_ne _ _ fun hSame => hOff (hSame ▸ hOther)

end Accepts

/-- What stands at the end of a path that leads to something. -/
theorem exists_reach_of_has {disk : Disk} {address : Address}
    (hHas : disk.has address = true) :
    ∃ location node links, disk.reach address = .ok (.taken location node links) := by
  rw [has, node] at hHas
  split at hHas
  · next location node links hFollow =>
      rcases find_false_of_find hFollow with hReach | ⟨place, target, left, hReach⟩
      · exact ⟨location, node, links, hReach⟩
      · exact ⟨place, .link target, left, hReach⟩
  · cases hHas
  · cases hHas

theorem remove_of_reach {disk : Disk} {address : Address} {location : Location} {node : Node}
    {links : Nat} (hReach : disk.reach address = .ok (.taken location node links)) :
    disk.remove address =
      if node = .folder then .error .isFolder else .ok (disk.erase location) := by
  rw [remove, hReach]
  cases node <;> rfl

theorem read_eq_ok_iff {disk : Disk} {address : Address} {content : Bytes} :
    disk.read address = .ok content ↔
      ∃ location links, disk.follow address = .ok (.taken location (.file content) links) := by
  rw [read]
  constructor
  · intro hRead
    split at hRead
    · next old hNode =>
        cases hRead
        exact follow_of_node hNode
    · cases hRead
    · cases hRead
  · rintro ⟨location, links, hFollow⟩
    rw [node, hFollow]

/-- What is written is what is read. -/
theorem read_write {disk written : Disk} {address : Address} {content : Bytes}
    (hWrite : disk.write address content = .ok written) :
    written.read address = .ok content := by
  obtain ⟨location, hAccepts, rfl⟩ := write_eq_ok_iff.mp hWrite
  obtain ⟨links, hFollow⟩ := hAccepts.follow_put content
  exact read_eq_ok_iff.mpr ⟨location, links, hFollow⟩

/-- Whatever is still there at the end of a path, it is not found once something on the way of the
path is removed. -/
theorem node_erase_of_mem {disk : Disk} {address : Address} {location : Location}
    (hWay : location ∈ disk.way address) :
    (disk.erase location).node address = .error .missing := by
  rw [node, follow]
  have hElse (other : Location) (hOther : other ≠ location) :
      (disk.erase location).get? other = disk.get? other := get?_erase_of_ne disk hOther
  have hNone := get?_erase_self disk (ne_nil_of_mem_wayFrom hWay)
  have hGone := find_of_gone (disk.workingFolder_erase _) hElse hNone hWay
  rcases hGone with hNone | ⟨_, _, hNone⟩ <;> rw [hNone]

/-- A removal has no say in a path that does not lead over what is removed. -/
theorem follow_erase_of_not_mem {disk : Disk} {address : Address} {location : Location}
    (hWay : location ∉ disk.way address) :
    (disk.erase location).follow address = disk.follow address := by
  apply find_congr (disk.workingFolder_erase _)
  intro other hOther
  apply get?_erase_of_ne
  rintro rfl
  exact hWay hOther

end Stencil.Disk
