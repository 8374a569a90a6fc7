import Stencil.Proofs.Disk.Resolution
import Stencil.Walk

/-! What the verdict on an entry tells of the entry, on any disk. Links are followed here only to
the node at their end. -/

namespace Stencil.Walk

namespace Plan

variable {plan : Plan} {disk : Disk} {folder : Location} {links : Nat} {name : Name}
  {path relative : Path} {content content' : Bytes}

theorem judgeFolder_eq_folder_iff :
    plan.judgeFolder relative = .folder ↔ plan.filter.check relative true 0 = .eligible := by
  unfold judgeFolder
  cases plan.filter.check relative true 0 <;> simp

theorem judgeFolder_ne_visit : plan.judgeFolder relative ≠ .visit content := by
  unfold judgeFolder
  cases plan.filter.check relative true 0 <;> simp

/-- A file is visited if it has passed the suffix, the filter and the look for binary content. -/
theorem judgeFile_eq_visit_iff :
    plan.judgeFile path relative content = .visit content' ↔
      content = content' ∧
        (plan.suffix?.any fun suffix => !Template.isTemplate path suffix) = false ∧
        plan.filter.check relative false content.length = .eligible ∧
        Binary.isFile path content = false := by
  unfold judgeFile
  cases plan.suffix?.any fun suffix => !Template.isTemplate path suffix with
  | true => simp
  | false =>
      cases plan.filter.check relative false content.length with
      | eligible => cases Binary.isFile path content <;> simp
      | _ => simp

theorem judgeFile_ne_folder : plan.judgeFile path relative content ≠ .folder := by
  unfold judgeFile
  split
  · simp
  · split
    · simp
    · split <;> simp
    · simp

/-- Only real folders that the filter lets pass are entered. -/
theorem judge_eq_folder_iff :
    plan.judge disk folder links name path relative = .folder ↔
      disk.get? (folder ++ [name]) = some .folder ∧
        plan.filter.check relative true 0 = .eligible := by
  rw [judge]
  cases hNode : disk.get? (folder ++ [name]) with
  | none => simp
  | some node =>
      cases node with
      | folder => simp [judgeFolder_eq_folder_iff]
      | file content => simp [judgeFile_ne_folder]
      | link target =>
          dsimp only
          split <;> simp [judgeFile_ne_folder]

/-- What is visited is a file, or a link that leads to one. -/
theorem judge_eq_visit (hVisit : plan.judge disk folder links name path relative = .visit content) :
    plan.judgeFile path relative content = .visit content ∧
      (disk.get? (folder ++ [name]) = some (.file content) ∨
        ∃ target, disk.get? (folder ++ [name]) = some (.link target) ∧
          disk.node ⟨folder, [.enter name], links⟩ = .ok (.file content)) := by
  rw [judge] at hVisit
  split at hVisit
  · exact absurd hVisit judgeFolder_ne_visit
  · next old hFile =>
      obtain ⟨rfl, -⟩ := judgeFile_eq_visit_iff.mp hVisit
      exact ⟨hVisit, .inl hFile⟩
  · next target hLink =>
      split at hVisit
      · cases hVisit
      · next old hNode =>
          obtain ⟨rfl, -⟩ := judgeFile_eq_visit_iff.mp hVisit
          exact ⟨hVisit, .inr ⟨target, hLink, hNode⟩⟩
      · cases hVisit
  · cases hVisit

/-- What is visited is what the entry leads to. -/
theorem judge_eq_visit_iff :
    plan.judge disk folder links name path relative = .visit content ↔
      disk.node ⟨folder, [.enter name], links⟩ = .ok (.file content) ∧
        plan.judgeFile path relative content = .visit content := by
  constructor
  · intro hVisit
    obtain ⟨hFile, hNode | ⟨target, hLink, hNode⟩⟩ := judge_eq_visit hVisit
    · exact ⟨Disk.node_of_get? hNode (by simp), hFile⟩
    · exact ⟨hNode, hFile⟩
  · rintro ⟨hNode, hFile⟩
    rw [judge]
    cases hEntry : disk.get? (folder ++ [name]) with
    | none => exact absurd hEntry (Disk.get?_ne_none_of_node hNode)
    | some node =>
        cases node with
        | folder =>
            rw [Disk.node_of_get? hEntry (by simp)] at hNode
            cases hNode
        | file old =>
            rw [Disk.node_of_get? hEntry (by simp)] at hNode
            cases hNode
            exact hFile
        | link target => simp only [hNode, hFile]

/-- A verdict with what it goes by: what the entry leads to and, where that is a folder, whether the
entry is a link. -/
inductive Judges (plan : Plan) (disk : Disk) (folder : Location) (links : Nat) (name : Name)
    (path relative : Path) : Verdict → Prop
  | file {content : Bytes}
      (hNode : disk.node ⟨folder, [.enter name], links⟩ = .ok (.file content)) :
      Judges plan disk folder links name path relative (plan.judgeFile path relative content)
  | folder (hHere : disk.get? (folder ++ [name]) = some .folder) :
      Judges plan disk folder links name path relative (plan.judgeFolder relative)
  | linked {target : Path} (hHere : disk.get? (folder ++ [name]) = some (.link target))
      (hNode : disk.node ⟨folder, [.enter name], links⟩ = .ok .folder) :
      Judges plan disk folder links name path relative .linkedFolder
  | dangling (hFile : ∀ content, disk.node ⟨folder, [.enter name], links⟩ ≠ .ok (.file content))
      (hFolder : disk.node ⟨folder, [.enter name], links⟩ ≠ .ok .folder) :
      Judges plan disk folder links name path relative .dangling

/-- Every verdict has its reason, and the cases are those that a walk can meet. -/
theorem judges_judge (plan : Plan) (disk : Disk) (folder : Location) (links : Nat) (name : Name)
    (path relative : Path) :
    plan.Judges disk folder links name path relative
      (plan.judge disk folder links name path relative) := by
  rw [judge]
  cases hHere : disk.get? (folder ++ [name]) with
  | none =>
      have hNode {node : Node} : disk.node ⟨folder, [.enter name], links⟩ ≠ .ok node :=
        fun hNode => Disk.get?_ne_none_of_node hNode hHere
      exact .dangling (fun _ => hNode) hNode
  | some node =>
      cases node with
      | folder => exact .folder hHere
      | file content => exact .file (Disk.node_of_get? hHere (by simp))
      | link target =>
          dsimp only
          split
          · next hNode => exact .linked hHere hNode
          · next content hNode => exact .file hNode
          · next hFile hFolder => exact .dangling hFolder hFile

/-- The verdict on an entry that is no link goes by what stands at its location. -/
theorem judge_congr_disk {disk' : Disk}
    (hNode : ∀ target, disk.get? (folder ++ [name]) ≠ some (.link target))
    (hSame : disk'.get? (folder ++ [name]) = disk.get? (folder ++ [name])) :
    plan.judge disk' folder links name path relative =
      plan.judge disk folder links name path relative := by
  rw [judge, judge, hSame]
  split
  · rfl
  · rfl
  · next target hLink => exact absurd hLink (hNode target)
  · rfl

end Plan

end Stencil.Walk
