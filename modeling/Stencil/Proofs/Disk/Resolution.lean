import Stencil.Disk.Files
import Stencil.Proofs.Disk.Change

/-! Where addresses lead. What files hold has no say in it, so a disk on which nothing but the
contents of files has changed is found as it was. -/

namespace Stencil

/-- A node regardless of what it holds as a file. -/
def Node.shape : Node → Node
  | .file _ => .file []
  | node => node

/-- A spot regardless of what it holds as a file. -/
def Spot.shape : Spot → Spot
  | .taken location node links => .taken location node.shape links
  | .free location slashed => .free location slashed

/-- What is entered at a spot: the folder there, with the links left to follow. -/
def Spot.entered : Spot → Except DiskFault (Location × Nat)
  | .taken location .folder links => .ok (location, links)
  | .taken _ _ _ => .error .notFolder
  | .free _ _ => .error .missing

theorem Spot.entered_shape (spot : Spot) : spot.shape.entered = spot.entered := by
  rcases spot with ⟨location, _ | _ | _, links⟩ | ⟨location, slashed⟩ <;> rfl

namespace Disk

/-- Two disks differ at most in the contents of files. -/
structure SameShape (before after : Disk) : Prop where
  workingFolder : after.workingFolder = before.workingFolder
  shape (location : Location) :
    (after.get? location).map Node.shape = (before.get? location).map Node.shape

theorem SameShape.refl (disk : Disk) : disk.SameShape disk := ⟨rfl, fun _ => rfl⟩

theorem SameShape.symm {before after : Disk} (hShape : before.SameShape after) :
    after.SameShape before :=
  ⟨hShape.workingFolder.symm, fun location => (hShape.shape location).symm⟩

theorem SameShape.trans {before between after : Disk} (hFirst : before.SameShape between)
    (hSecond : between.SameShape after) : before.SameShape after where
  workingFolder := hSecond.workingFolder.trans hFirst.workingFolder
  shape location := (hSecond.shape location).trans (hFirst.shape location)

/-- Writing to a file that is there changes no shape, so that every path leads where it did. -/
theorem sameShape_put {disk : Disk} {location : Location} {old : Bytes}
    (hFile : disk.get? location = some (.file old)) (content : Bytes) :
    disk.SameShape (disk.put location (.file content)) := by
  have hRoot : location ≠ [] := by
    rintro rfl
    cases hFile
  refine ⟨disk.workingFolder_put _ _, fun other => ?_⟩
  by_cases hHere : other = location
  · rw [hHere, get?_put_self _ _ hRoot, hFile]
    rfl
  · rw [get?_put_of_ne _ _ hHere]

theorem follow_of_node {disk : Disk} {address : Address} {content : Bytes}
    (hNode : disk.node address = .ok (.file content)) :
    ∃ location links, disk.follow address = .ok (.taken location (.file content) links) := by
  rw [node] at hNode
  split at hNode
  · next location node links hSpot =>
      cases hNode
      exact ⟨location, links, hSpot⟩
  · cases hNode
  · cases hNode

/-- There is a folder where an address can be entered. -/
theorem hasFolder_iff {disk : Disk} {address : Address} :
    disk.hasFolder address = true ↔ ∃ folder links, disk.enter address = .ok (folder, links) := by
  rw [hasFolder, node, enter]
  cases disk.follow address with
  | error cause => simp
  | ok spot =>
      cases spot with
      | free location slashed => simp
      | taken location node links => cases node <;> simp

theorem has_of_hasFolder {disk : Disk} {address : Address}
    (hFolder : disk.hasFolder address = true) : disk.has address = true := by
  rw [hasFolder] at hFolder
  rw [has]
  cases hNode : disk.node address with
  | error cause => simp [hNode] at hFolder
  | ok node => rfl

theorem hasFolder_stay (disk : Disk) (folder : Location) (links : Nat) :
    disk.hasFolder ⟨folder, [.stay], links⟩ = true := by
  cases links <;> rfl

theorem hasFolder_up (disk : Disk) (folder : Location) (links : Nat) :
    disk.hasFolder ⟨folder, [.up], links⟩ = true := by
  cases links <;> rfl

/-- No folder is written to. -/
theorem write_of_hasFolder {disk : Disk} {address : Address} (content : Bytes)
    (hFolder : disk.hasFolder address = true) :
    disk.write address content = .error .isFolder := by
  rw [hasFolder, node] at hFolder
  rw [write]
  cases hSpot : disk.follow address with
  | error cause => simp [hSpot] at hFolder
  | ok spot =>
      cases spot with
      | free location slashed => simp [hSpot] at hFolder
      | taken location node links => cases node <;> simp [hSpot] at hFolder ⊢

/-- What is found behind a link that is followed. -/
def findBehind (disk : Disk) (through : Bool) :
    Nat → Location → List Step → Except DiskFault Spot
  | 0, _, _ => .error .tooManyLinks
  | links + 1, folder, steps => disk.find through links folder steps

section Steps

variable (disk : Disk) (through : Bool) (links : Nat) (folder : Location) (steps : List Step)

@[simp] theorem find_nil :
    disk.find through links folder [] = .ok (.taken folder .folder links) := by
  cases links <;> rfl

@[simp] theorem find_blank :
    disk.find through links folder (.blank :: steps) = disk.find through links folder steps := by
  cases links <;> rfl

@[simp] theorem find_stay :
    disk.find through links folder (.stay :: steps) = disk.find through links folder steps := by
  cases links <;> rfl

@[simp] theorem find_up : disk.find through links folder (.up :: steps) =
    disk.find through links folder.dropLast steps := by
  cases links <;> rfl

@[simp] theorem find_top :
    disk.find through links folder (.top :: steps) = disk.find through links [] steps := by
  cases links <;> rfl

@[simp] theorem find_here : disk.find through links folder (.here :: steps) =
    disk.find through links disk.workingFolder steps := by
  cases links <;> rfl

@[simp] theorem find_nowhere :
    disk.find through links folder (.nowhere :: steps) = .error .missing := by
  cases links <;> rfl

/-- Everything that the next name can meet: nothing, a file, a folder, or a link. -/
theorem find_enter_cons (name : Name) :
    disk.find through links folder (.enter name :: steps) =
      match disk.get? (folder ++ [name]) with
      | none =>
          if steps.all (· = .blank) then .ok (.free (folder ++ [name]) (!steps.isEmpty))
          else .error .missing
      | some (.file content) =>
          if steps.isEmpty then .ok (.taken (folder ++ [name]) (.file content) links)
          else .error .notFolder
      | some .folder => disk.find through links (folder ++ [name]) steps
      | some (.link target) =>
          if steps.isEmpty && !through then
            .ok (.taken (folder ++ [name]) (.link target) links)
          else disk.findBehind through links folder (target.steps ++ steps) := by
  cases links <;> rfl

end Steps

/-- Induction on the steps that are left and, behind a link, on the links that may still be
followed: what holds behind every link holds of all that comes before it. -/
theorem steps_induction {motive : Nat → List Step → Prop} (nil : ∀ links, motive links [])
    (cons : ∀ links step steps, motive links steps →
      (∀ fewer steps, links = fewer + 1 → motive fewer steps) → motive links (step :: steps)) :
    ∀ links steps, motive links steps := by
  intro links
  induction links with
  | zero =>
      intro steps
      induction steps with
      | nil => exact nil 0
      | cons step steps ih => exact cons 0 step steps ih nofun
  | succ links behind =>
      intro steps
      induction steps with
      | nil => exact nil (links + 1)
      | cons step steps ih =>
          refine cons (links + 1) step steps ih fun fewer steps hFewer => ?_
          obtain rfl := Nat.succ.inj hFewer
          exact behind steps

/-- How a step to an entry leads to a spot: the entry is free or ends the path, or the path goes on
inside it or behind it. -/
inductive Enters (disk : Disk) (through : Bool) (links : Nat) (folder : Location) (name : Name)
    (steps : List Step) : Spot → Prop
  | free (hNode : disk.get? (folder ++ [name]) = none) (hBlank : steps.all (· = .blank) = true) :
      Enters disk through links folder name steps (.free (folder ++ [name]) (!steps.isEmpty))
  | ends {node : Node} (hNode : disk.get? (folder ++ [name]) = some node) (hEnd : steps = [])
      (hPlain : node ≠ .folder) (hLink : through = true → ∀ target, node ≠ .link target) :
      Enters disk through links folder name steps (.taken (folder ++ [name]) node links)
  | inside {spot : Spot} (hNode : disk.get? (folder ++ [name]) = some .folder)
      (hRest : disk.find through links (folder ++ [name]) steps = .ok spot) :
      Enters disk through links folder name steps spot
  | behind {target : Path} {fewer : Nat} {spot : Spot}
      (hNode : disk.get? (folder ++ [name]) = some (.link target))
      (hFollowed : steps = [] → through = true) (hLinks : links = fewer + 1)
      (hRest : disk.find through fewer folder (target.steps ++ steps) = .ok spot) :
      Enters disk through links folder name steps spot

section Enter

variable {disk : Disk} {through : Bool} {links : Nat} {folder : Location} {name : Name}
  {steps : List Step}

/-- Within a folder the search goes on from there. -/
theorem find_inside (hNode : disk.get? (folder ++ [name]) = some .folder) :
    disk.find through links folder (.enter name :: steps) =
      disk.find through links (folder ++ [name]) steps := by
  rw [find_enter_cons, hNode]

/-- Behind a link the target's steps come first, from the folder in which the link lies, and one
link fewer is left. -/
theorem find_behind {target : Path} (hNode : disk.get? (folder ++ [name]) = some (.link target))
    (hFollowed : steps = [] → through = true) :
    disk.find through (links + 1) folder (.enter name :: steps) =
      disk.find through links folder (target.steps ++ steps) := by
  have hOn : ¬(steps.isEmpty && !through) = true := by simpa using hFollowed
  rw [find_enter_cons, hNode]
  exact if_neg hOn

/-- A search that finds a spot has met one of four things at the next name: nothing, its end, a
folder to go on in, or a link to go through. -/
theorem enters_of_find {spot : Spot}
    (hFind : disk.find through links folder (.enter name :: steps) = .ok spot) :
    disk.Enters through links folder name steps spot := by
  rw [find_enter_cons] at hFind
  split at hFind
  · next hNode =>
      split at hFind
      · next hBlank =>
          obtain rfl := Except.ok.inj hFind
          exact .free hNode hBlank
      · cases hFind
  · next content hNode =>
      split at hFind
      · next hEnd =>
          obtain rfl := Except.ok.inj hFind
          exact .ends hNode (List.isEmpty_iff.mp hEnd) (by simp) (by simp)
      · cases hFind
  · next hNode => exact .inside hNode hFind
  · next target hNode =>
      split at hFind
      · next hEnd =>
          obtain rfl := Except.ok.inj hFind
          rw [Bool.and_eq_true, Bool.not_eq_true'] at hEnd
          exact .ends hNode (List.isEmpty_iff.mp hEnd.1) (by simp) (by simp [hEnd.2])
      · next hOn =>
          cases links with
          | zero => cases hFind
          | succ fewer => exact .behind hNode (by simpa using hOn) rfl hFind

end Enter

/-- A step to an entry that is no link. -/
theorem find_enter {disk : Disk} {folder : Location} {name : Name} {links : Nat}
    (hNode : ∀ target, disk.get? (folder ++ [name]) ≠ some (.link target)) (through : Bool) :
    disk.find through links folder [.enter name] =
      match disk.get? (folder ++ [name]) with
      | none => .ok (.free (folder ++ [name]) false)
      | some node => .ok (.taken (folder ++ [name]) node links) := by
  rw [find_enter_cons]
  cases hHere : disk.get? (folder ++ [name]) with
  | none => rfl
  | some node =>
      cases node with
      | file content => rfl
      | link target => exact absurd hHere (hNode target)
      | folder => exact disk.find_nil through links _

/-- An entry that is no link is what its address leads to. -/
theorem node_of_get? {disk : Disk} {folder : Location} {name : Name} {links : Nat} {node : Node}
    (hNode : disk.get? (folder ++ [name]) = some node) (hLink : ∀ target, node ≠ .link target) :
    disk.node ⟨folder, [.enter name], links⟩ = .ok node := by
  have hPlain : ∀ target, disk.get? (folder ++ [name]) ≠ some (.link target) := by
    intro target hTarget
    exact hLink target (Option.some.inj (hNode.symm.trans hTarget))
  rw [Disk.node, follow, find_enter hPlain, hNode]

theorem get?_ne_none_of_node {disk : Disk} {folder : Location} {name : Name} {links : Nat}
    {node : Node} (hNode : disk.node ⟨folder, [.enter name], links⟩ = .ok node) :
    disk.get? (folder ++ [name]) ≠ none := by
  intro hNone
  rw [Disk.node, follow, find_enter (by simp [hNone]), hNone] at hNode
  cases hNode

/-- Paths depend on the shape of a disk only. By induction on the links left and the steps, since a
link puts new steps in front. -/
theorem find_shape {before after : Disk} (hShape : before.SameShape after) (through : Bool)
    (links : Nat) (folder : Location) (steps : List Step) :
    (after.find through links folder steps).map Spot.shape =
      (before.find through links folder steps).map Spot.shape := by
  induction links, steps using steps_induction generalizing folder with
  | nil links => simp
  | cons links step steps ih behind =>
      cases step with
      | blank | stay | up | top => simpa using ih _
      | here => simpa [hShape.workingFolder] using ih _
      | nowhere => simp
      | enter name =>
          have hNode := hShape.shape (folder ++ [name])
          rw [find_enter_cons, find_enter_cons]
          cases hBefore : before.get? (folder ++ [name]) with
          | none =>
              rw [hBefore, Option.map_none, Option.map_eq_none_iff] at hNode
              rw [hNode]
          | some old =>
              rw [hBefore, Option.map_some, Option.map_eq_some_iff] at hNode
              obtain ⟨new, hAfter, hSame⟩ := hNode
              rw [hAfter]
              cases old <;> cases new <;> cases hSame
              · dsimp only
                split <;> rfl
              · dsimp only
                split
                · rfl
                · cases links with
                  | zero => rfl
                  | succ fewer => exact behind fewer _ rfl _
              · exact ih _

/-- What is found is found again on a disk of the same shape. -/
theorem find_of_sameShape {before after : Disk} (hShape : before.SameShape after)
    {through : Bool} {links links' : Nat} {folder location : Location} {steps : List Step}
    {node : Node}
    (hFind : before.find through links folder steps = .ok (.taken location node links')) :
    ∃ node', after.find through links folder steps = .ok (.taken location node' links') ∧
      node'.shape = node.shape := by
  have hSame := find_shape hShape through links folder steps
  rw [hFind] at hSame
  cases hAfter : after.find through links folder steps with
  | error cause => simp [hAfter, Except.map] at hSame
  | ok spot =>
      rw [hAfter] at hSame
      cases spot with
      | free place slashed => simp [Except.map, Spot.shape] at hSame
      | taken place node' left =>
          obtain ⟨rfl, hNode, rfl⟩ := Spot.taken.inj (Except.ok.inj hSame)
          exact ⟨node', rfl, hNode⟩

theorem enter_eq_bind (disk : Disk) (address : Address) :
    disk.enter address = (disk.follow address).bind Spot.entered := by
  rw [enter]
  rcases disk.follow address with cause | ⟨location, _ | _ | _, links⟩ | ⟨location, slashed⟩ <;> rfl

/-- Folders are entered by shape alone. -/
theorem enter_of_sameShape {before after : Disk} (hShape : before.SameShape after)
    (address : Address) : after.enter address = before.enter address := by
  have hEnter (disk : Disk) :
      disk.enter address = ((disk.follow address).map Spot.shape).bind Spot.entered := by
    rw [enter_eq_bind]
    cases disk.follow address with
    | error cause => rfl
    | ok spot => exact (Spot.entered_shape spot).symm
  have hFollow : (after.follow address).map Spot.shape = (before.follow address).map Spot.shape :=
    find_shape hShape true address.links address.folder address.steps
  rw [hEnter, hEnter, hFollow]

/-- Writing to files leaves all folders where they are. -/
theorem hasFolder_of_sameShape {before after : Disk} (hShape : before.SameShape after)
    (address : Address) : after.hasFolder address = before.hasFolder address := by
  rw [Bool.eq_iff_iff, hasFolder_iff, hasFolder_iff, enter_of_sameShape hShape]

theorem get?_eq_folder_iff {before after : Disk} (hShape : before.SameShape after)
    (location : Location) :
    after.get? location = some .folder ↔ before.get? location = some .folder := by
  have hSame := hShape.shape location
  have hFolder (node? : Option Node) :
      node? = some .folder ↔ node?.map Node.shape = some .folder := by
    rcases node? with - | node
    · simp
    · cases node <;> simp [Node.shape]
  rw [hFolder, hSame, ← hFolder]

/-- What is no folder is found where it stands. -/
theorem get?_of_find {disk : Disk} {through : Bool} {links links' : Nat} {location : Location}
    {node : Node} {folder : Location} {steps : List Step}
    (hFind : disk.find through links folder steps = .ok (.taken location node links'))
    (hNode : node ≠ .folder) : disk.get? location = some node := by
  induction links, steps using steps_induction generalizing folder with
  | nil links =>
      rw [find_nil] at hFind
      cases hFind
      exact absurd rfl hNode
  | cons links step steps ih behind =>
      cases step with
      | blank | stay | up | top | here => exact ih (by simpa using hFind)
      | nowhere => simp at hFind
      | enter name =>
          cases enters_of_find hFind with
          | ends hHere => exact hHere
          | inside _ hRest => exact ih hRest
          | behind _ _ hLinks hRest => exact behind _ _ hLinks hRest

/-- A free place is one where nothing stands. -/
theorem get?_of_find_free {disk : Disk} {through slashed : Bool} {links : Nat}
    {folder location : Location} {steps : List Step}
    (hFind : disk.find through links folder steps = .ok (.free location slashed)) :
    disk.get? location = none := by
  induction links, steps using steps_induction generalizing folder with
  | nil links => simp at hFind
  | cons links step steps ih behind =>
      cases step with
      | blank | stay | up | top | here => exact ih (by simpa using hFind)
      | nowhere => simp at hFind
      | enter name =>
          cases enters_of_find hFind with
          | free hNone => exact hNone
          | inside _ hRest => exact ih hRest
          | behind _ _ hLinks hRest => exact behind _ _ hLinks hRest

/-- The same file is found on a disk of the same shape. -/
theorem follow_of_sameShape {before after : Disk} (hShape : before.SameShape after)
    {address : Address} {location : Location} {content : Bytes} {links : Nat}
    (hFollow : after.follow address = .ok (.taken location (.file content) links)) :
    ∃ old, before.follow address = .ok (.taken location (.file old) links) := by
  obtain ⟨node, hBefore, hNode⟩ := find_of_sameShape hShape.symm hFollow
  cases node with
  | file old => exact ⟨old, hBefore⟩
  | link target => cases hNode
  | folder => cases hNode

end Disk

end Stencil
