import Stencil.Disk.Files
import Stencil.Proofs.Disk.Resolution

/-! The way of a path: the locations that are looked up on it, link targets included. Only what
stands on its way has a say in where a path leads. A path no longer leads anywhere once something on
its way is gone, and a file that is written does not change the way to anything. -/

namespace Stencil.Disk

/-- The locations looked up by taking steps from a folder. `behind` goes on behind a link. -/
def wayWith (disk : Disk) (through : Bool) (behind : Location → List Step → List Location)
    (folder : Location) : List Step → List Location
  | [] => []
  | .blank :: steps => wayWith disk through behind folder steps
  | .stay :: steps => wayWith disk through behind folder steps
  | .up :: steps => wayWith disk through behind folder.dropLast steps
  | .top :: steps => wayWith disk through behind [] steps
  | .here :: steps => wayWith disk through behind disk.workingFolder steps
  | .nowhere :: _ => []
  | .enter name :: steps =>
      (folder ++ [name]) ::
        match disk.get? (folder ++ [name]) with
        | none | some (.file _) => []
        | some .folder => wayWith disk through behind (folder ++ [name]) steps
        | some (.link target) =>
            if steps.isEmpty && !through then [] else behind folder (target.steps ++ steps)

/-- The locations looked up by taking steps from a folder and following no more than `links`
links. A link at the end is followed if `through` says so. -/
def wayFrom (disk : Disk) (through : Bool) : Nat → Location → List Step → List Location
  | 0 => disk.wayWith through fun _ _ => []
  | links + 1 => disk.wayWith through (wayFrom disk through links)

/-- The locations looked up to get to where an address leads. -/
def way (disk : Disk) (address : Address) : List Location :=
  disk.wayFrom true address.links address.folder address.steps

/-- What is looked up behind a link that is followed. -/
def wayBehind (disk : Disk) (through : Bool) : Nat → Location → List Step → List Location
  | 0, _, _ => []
  | links + 1, folder, steps => disk.wayFrom through links folder steps

section Steps

variable (disk : Disk) (through : Bool) (links : Nat) (folder : Location) (steps : List Step)

@[simp] theorem wayFrom_nil : disk.wayFrom through links folder [] = [] := by
  cases links <;> rfl

@[simp] theorem wayFrom_blank :
    disk.wayFrom through links folder (.blank :: steps) =
      disk.wayFrom through links folder steps := by
  cases links <;> rfl

@[simp] theorem wayFrom_stay :
    disk.wayFrom through links folder (.stay :: steps) =
      disk.wayFrom through links folder steps := by
  cases links <;> rfl

@[simp] theorem wayFrom_up : disk.wayFrom through links folder (.up :: steps) =
    disk.wayFrom through links folder.dropLast steps := by
  cases links <;> rfl

@[simp] theorem wayFrom_top :
    disk.wayFrom through links folder (.top :: steps) = disk.wayFrom through links [] steps := by
  cases links <;> rfl

@[simp] theorem wayFrom_here : disk.wayFrom through links folder (.here :: steps) =
    disk.wayFrom through links disk.workingFolder steps := by
  cases links <;> rfl

@[simp] theorem wayFrom_nowhere : disk.wayFrom through links folder (.nowhere :: steps) = [] := by
  cases links <;> rfl

theorem wayFrom_enter (name : Name) :
    disk.wayFrom through links folder (.enter name :: steps) =
      (folder ++ [name]) ::
        match disk.get? (folder ++ [name]) with
        | none | some (.file _) => []
        | some .folder => disk.wayFrom through links (folder ++ [name]) steps
        | some (.link target) =>
            if steps.isEmpty && !through then []
            else disk.wayBehind through links folder (target.steps ++ steps) := by
  cases links <;> rfl

end Steps

section Enter

variable {disk : Disk} {through : Bool} {links : Nat} {folder location : Location} {name : Name}
  {steps : List Step}

theorem wayFrom_inside (hNode : disk.get? (folder ++ [name]) = some .folder) :
    disk.wayFrom through links folder (.enter name :: steps) =
      (folder ++ [name]) :: disk.wayFrom through links (folder ++ [name]) steps := by
  rw [wayFrom_enter, hNode]

theorem wayFrom_behind {target : Path} (hNode : disk.get? (folder ++ [name]) = some (.link target))
    (hFollowed : steps = [] → through = true) :
    disk.wayFrom through (links + 1) folder (.enter name :: steps) =
      (folder ++ [name]) :: disk.wayFrom through links folder (target.steps ++ steps) := by
  have hOn : ¬(steps.isEmpty && !through) = true := by simpa using hFollowed
  rw [wayFrom_enter, hNode]
  exact congrArg _ (if_neg hOn)

/-- What is looked up from a step to an entry on: the entry, or what is looked up inside it or
behind it. -/
theorem mem_wayFrom_enter (hWay : location ∈ disk.wayFrom through links folder
      (.enter name :: steps)) :
    location = folder ++ [name] ∨
      (disk.get? (folder ++ [name]) = some .folder ∧
        location ∈ disk.wayFrom through links (folder ++ [name]) steps) ∨
      ∃ target fewer, disk.get? (folder ++ [name]) = some (.link target) ∧
        (steps = [] → through = true) ∧ links = fewer + 1 ∧
        location ∈ disk.wayFrom through fewer folder (target.steps ++ steps) := by
  rw [wayFrom_enter, List.mem_cons] at hWay
  refine hWay.imp_right fun hLater => ?_
  split at hLater
  · cases hLater
  · cases hLater
  · next hNode => exact .inl ⟨hNode, hLater⟩
  · next target hNode =>
      split at hLater
      · cases hLater
      · next hOn =>
          cases links with
          | zero => cases hLater
          | succ fewer => exact .inr ⟨target, fewer, hNode, by simpa using hOn, rfl, hLater⟩

end Enter

theorem ne_nil_of_mem_wayFrom {disk : Disk} {through : Bool} {links : Nat}
    {folder location : Location} {steps : List Step}
    (hWay : location ∈ disk.wayFrom through links folder steps) : location ≠ [] := by
  induction links, steps using steps_induction generalizing folder with
  | nil links => simp at hWay
  | cons links step steps ih behind =>
      cases step with
      | blank | stay | up | top | here => exact ih (by simpa using hWay)
      | nowhere => simp at hWay
      | enter name =>
          rcases mem_wayFrom_enter hWay with rfl | ⟨-, hLater⟩ | ⟨_, _, -, -, hLinks, hLater⟩
          · simp
          · exact ih hLater
          · exact behind _ _ hLinks hLater

/-- A path leads to the same on a disk that holds the same on its way. -/
theorem find_congr {before after : Disk} {through : Bool} {links : Nat} {folder : Location}
    {steps : List Step} (hFolder : after.workingFolder = before.workingFolder)
    (hSame : ∀ location ∈ before.wayFrom through links folder steps,
      after.get? location = before.get? location) :
    after.find through links folder steps = before.find through links folder steps := by
  induction links, steps using steps_induction generalizing folder with
  | nil links => simp
  | cons links step steps ih behind =>
      cases step with
      | blank | stay | up | top => simpa using ih (by simpa using hSame)
      | here => simpa [hFolder] using ih (by simpa using hSame)
      | nowhere => simp
      | enter name =>
          rw [wayFrom_enter, List.forall_mem_cons] at hSame
          obtain ⟨hHere, hLater⟩ := hSame
          rw [find_enter_cons, find_enter_cons, hHere]
          cases hNode : before.get? (folder ++ [name]) with
          | none => rfl
          | some node =>
              rw [hNode] at hLater
              cases node with
              | file content => rfl
              | folder => exact ih hLater
              | link target =>
                  dsimp only at hLater ⊢
                  split
                  · rfl
                  · next hOn =>
                      rw [if_neg hOn] at hLater
                      cases links with
                      | zero => rfl
                      | succ fewer => exact behind fewer _ rfl hLater

/-- A path on whose way something is gone leads to nothing. -/
theorem find_of_gone {before after : Disk} {through : Bool} {links : Nat} {folder : Location}
    {steps : List Step} {location : Location} (hFolder : after.workingFolder = before.workingFolder)
    (hElse : ∀ other, other ≠ location → after.get? other = before.get? other)
    (hGone : after.get? location = none)
    (hWay : location ∈ before.wayFrom through links folder steps) :
    after.find through links folder steps = .error .missing ∨
      ∃ place slashed, after.find through links folder steps = .ok (.free place slashed) := by
  induction links, steps using steps_induction generalizing folder with
  | nil links => simp at hWay
  | cons links step steps ih behind =>
      cases step with
      | blank | stay | up | top => simpa using ih (by simpa using hWay)
      | here => simpa [hFolder] using ih (by simpa using hWay)
      | nowhere => simp at hWay
      | enter name =>
          by_cases hHere : folder ++ [name] = location
          · rw [find_enter_cons, hHere, hGone]
            dsimp only
            split
            · exact .inr ⟨_, _, rfl⟩
            · exact .inl rfl
          · rcases mem_wayFrom_enter hWay with
              hSame | ⟨hNode, hLater⟩ | ⟨target, fewer, hNode, hFollowed, rfl, hLater⟩
            · exact absurd hSame.symm hHere
            · rw [find_inside (by rw [hElse _ hHere, hNode])]
              exact ih hLater
            · rw [find_behind (by rw [hElse _ hHere, hNode]) hFollowed]
              exact behind fewer _ rfl hLater

/-- What is no folder is looked up where it is found, also if a link at the end is followed. -/
theorem mem_wayFrom_of_find {disk : Disk} {through through' : Bool} {links links' : Nat}
    {folder location : Location} {steps : List Step} {node : Node} (hNode : node ≠ .folder)
    (hFind : disk.find through links folder steps = .ok (.taken location node links'))
    (hThrough : through = true → through' = true) :
    location ∈ disk.wayFrom through' links folder steps := by
  induction links, steps using steps_induction generalizing folder with
  | nil links =>
      rw [find_nil] at hFind
      cases hFind
      exact absurd rfl hNode
  | cons links step steps ih behind =>
      cases step with
      | blank | stay | up | top | here => simpa using ih (by simpa using hFind)
      | nowhere => simp at hFind
      | enter name =>
          cases enters_of_find hFind with
          | ends =>
              rw [wayFrom_enter]
              exact List.mem_cons_self
          | inside hHere hRest =>
              rw [wayFrom_inside hHere]
              exact List.mem_cons_of_mem _ (ih hRest)
          | behind hHere hFollowed hLinks hRest =>
              subst hLinks
              rw [wayFrom_behind hHere fun hEnd => hThrough (hFollowed hEnd)]
              exact List.mem_cons_of_mem _ (behind _ _ rfl hRest)

/-- A file on the way is where the path ends, if it leads anywhere. -/
theorem find_of_file_on_way {disk : Disk} {through : Bool} {links : Nat}
    {folder location : Location} {steps : List Step} {content : Bytes} {spot : Spot}
    (hFile : disk.get? location = some (.file content))
    (hWay : location ∈ disk.wayFrom through links folder steps)
    (hFind : disk.find through links folder steps = .ok spot) :
    ∃ links', spot = .taken location (.file content) links' := by
  induction links, steps using steps_induction generalizing folder with
  | nil links => simp at hWay
  | cons links step steps ih behind =>
      cases step with
      | blank | stay | up | top | here => exact ih (by simpa using hWay) (by simpa using hFind)
      | nowhere => simp at hWay
      | enter name =>
          rcases mem_wayFrom_enter hWay with
            rfl | ⟨hNode, hLater⟩ | ⟨target, fewer, hNode, hFollowed, rfl, hLater⟩
          · rw [find_enter_cons, hFile] at hFind
            dsimp only at hFind
            split at hFind
            · exact ⟨links, (Except.ok.inj hFind).symm⟩
            · cases hFind
          · rw [find_inside hNode] at hFind
            exact ih hLater hFind
          · rw [find_behind hNode hFollowed] at hFind
            exact behind fewer _ rfl hLater hFind

/-- A path that leads to something either ends in a link or does not need the link at its end
followed. -/
theorem find_false_of_find {disk : Disk} {links links' : Nat} {folder location : Location}
    {steps : List Step} {node : Node}
    (hFind : disk.find true links folder steps = .ok (.taken location node links')) :
    disk.find false links folder steps = .ok (.taken location node links') ∨
      ∃ place target left,
        disk.find false links folder steps = .ok (.taken place (.link target) left) := by
  induction links, steps using steps_induction generalizing folder with
  | nil links => exact .inl (by simpa using hFind)
  | cons links step steps ih behind =>
      cases step with
      | blank | stay | up | top | here => simpa using ih (by simpa using hFind)
      | nowhere => simp at hFind
      | enter name =>
          cases enters_of_find hFind with
          | ends hNode hEnd _ hLink =>
              subst hEnd
              left
              rw [find_enter (by simpa [hNode] using hLink rfl), hNode]
          | inside hNode hRest =>
              rw [find_inside hNode]
              exact ih hRest
          | @behind target fewer _ hNode _ hLinks hRest =>
              subst hLinks
              by_cases hEnd : steps = []
              · subst hEnd
                right
                rw [find_enter_cons, hNode]
                exact ⟨_, _, _, rfl⟩
              · rw [find_behind hNode fun hNone => absurd hNone hEnd]
                exact behind fewer _ rfl hRest

/-- A path that leads to a file ends with the name of an entry. It is the file's own name unless
the entry is a link that is followed. -/
theorem enter_of_find {disk : Disk} {links links' : Nat} {folder location : Location}
    {front : List Step} {last : Step} {content : Bytes}
    (hFind : disk.find false links folder (front ++ [last]) =
      .ok (.taken location (.file content) links')) :
    ∃ name, last = .enter name ∧ location.getLast? = some name := by
  generalize hSteps : front ++ [last] = steps at hFind
  induction links, steps using steps_induction generalizing folder front with
  | nil links => simp at hSteps
  | cons links step steps ih behind =>
      -- Either the last step is reached, or there is a step in front of it.
      cases front with
      | nil =>
          obtain ⟨rfl, rfl⟩ := List.cons_eq_cons.mp hSteps
          cases last with
          | blank | stay | up | top | here | nowhere => simp at hFind
          | enter name =>
              cases enters_of_find hFind with
              | ends => exact ⟨name, rfl, List.getLast?_concat⟩
              | inside _ hRest => simp at hRest
              | behind _ hFollowed => cases hFollowed rfl
      | cons first front =>
          obtain ⟨rfl, rfl⟩ := List.cons_eq_cons.mp hSteps
          cases first with
          | blank | stay | up | top | here => exact ih rfl (by simpa using hFind)
          | nowhere => simp at hFind
          | enter name =>
              cases enters_of_find hFind with
              | ends _ hEnd => simp at hEnd
              | inside _ hRest => exact ih rfl hRest
              | behind _ _ hLinks hRest =>
                  exact behind _ _ hLinks (List.append_assoc _ _ _) hRest

section Put

variable {disk : Disk} {location : Location} {content : Bytes}

theorem ne_nil_of_plain
    (hPlain : ∀ node, disk.get? location = some node → ∃ old, node = .file old) :
    location ≠ [] := by
  rintro rfl
  obtain ⟨old, hFile⟩ := hPlain .folder rfl
  cases hFile

/-- A file that is made or written anew changes no way. -/
theorem wayFrom_put (hPlain : ∀ node, disk.get? location = some node → ∃ old, node = .file old)
    (through : Bool) (links : Nat) (folder : Location) (steps : List Step) :
    (disk.put location (.file content)).wayFrom through links folder steps =
      disk.wayFrom through links folder steps := by
  have hRoot := ne_nil_of_plain hPlain
  induction links, steps using steps_induction generalizing folder with
  | nil links => simp
  | cons links step steps ih behind =>
      cases step with
      | blank | stay | up | top | here => simpa using ih _
      | nowhere => simp
      | enter name =>
          rw [wayFrom_enter, wayFrom_enter]
          congr 1
          by_cases hHere : folder ++ [name] = location
          · rw [hHere, get?_put_self _ _ hRoot]
            cases hNode : disk.get? location with
            | none => rfl
            | some node =>
                obtain ⟨old, rfl⟩ := hPlain node hNode
                rfl
          · rw [get?_put_of_ne _ _ hHere]
            split
            · rfl
            · rfl
            · exact ih _
            · split
              · rfl
              · cases links with
                | zero => rfl
                | succ fewer => exact behind fewer _ rfl _

/-- A file that is made is found where there was a free place. -/
theorem find_put_of_free {through : Bool} {links : Nat} {folder : Location} {steps : List Step}
    (hFind : disk.find through links folder steps = .ok (.free location false)) :
    ∃ links', (disk.put location (.file content)).find through links folder steps =
      .ok (.taken location (.file content) links') := by
  have hNone := get?_of_find_free hFind
  have hRoot : location ≠ [] := by
    rintro rfl
    cases hNone
  -- What stands somewhere does not stand at the free place, so it stands there afterwards.
  have hKept {other : Location} {node : Node} (hNode : disk.get? other = some node) :
      (disk.put location (.file content)).get? other = some node := by
    rw [get?_put_of_ne, hNode]
    rintro rfl
    rw [hNone] at hNode
    cases hNode
  induction links, steps using steps_induction generalizing folder with
  | nil links => simp at hFind
  | cons links step steps ih behind =>
      cases step with
      | blank | stay | up | top | here => simpa using ih (by simpa using hFind)
      | nowhere => simp at hFind
      | enter name =>
          generalize hSpot : Spot.free location false = spot at hFind
          cases enters_of_find hFind with
          | free =>
              obtain ⟨rfl, hEnd⟩ := Spot.free.inj hSpot
              rw [find_enter_cons, get?_put_self _ _ hRoot]
              exact ⟨links, if_pos (by simpa using hEnd)⟩
          | ends => cases hSpot
          | inside hNode hRest =>
              subst hSpot
              rw [find_inside (hKept hNode)]
              exact ih hRest
          | behind hNode hFollowed hLinks hRest =>
              subst hSpot hLinks
              rw [find_behind (hKept hNode) hFollowed]
              exact behind _ _ rfl hRest

end Put

end Stencil.Disk
