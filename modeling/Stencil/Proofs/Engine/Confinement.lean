import Stencil.Proofs.Engine.Replacement
import Stencil.Proofs.Walk.Entered
import Stencil.Proofs.Walk.Invariant

/-! Which files putting values in place can change, on any disk. The folders that a walk enters are
real ones, reached from the root through folders that the filter lets pass. Links in them are read
and written through, so a file outside of the root, or in a folder that is never entered, is
reached by such a link and in no other way. -/

namespace Stencil

namespace Walk

/-- A location that lies below a folder of a name that is never entered. -/
def IsSkipped (root location : Location) : Prop :=
  ∃ front name rest, location = root ++ front ++ name :: rest ∧ rest ≠ [] ∧
    Filter.isSkippedFolder name.text = true

/-- What lies directly in an entered folder lies inside the root, and below no folder that is
never entered. -/
theorem Entered.inside {filter : Filter} {disk : Disk} {root folder : Location}
    {relative : Path} (hEntered : Entered filter disk root relative folder) (name : Name) :
    root <+: folder ++ [name] ∧ ¬ IsSkipped root (folder ++ [name]) := by
  obtain ⟨front, rfl, hFront⟩ := hEntered.exists_append
  refine ⟨⟨front ++ [name], by rw [List.append_assoc]⟩, ?_⟩
  rintro ⟨before, skipped, rest, hLocation, hRest, hSkipped⟩
  rw [List.append_assoc, List.append_assoc, List.append_cancel_left_eq] at hLocation
  obtain ⟨init, last, rfl⟩ : ∃ init last, rest = init ++ [last] :=
    ⟨_, _, (List.dropLast_append_getLast hRest).symm⟩
  rw [← List.cons_append, ← List.append_assoc] at hLocation
  obtain ⟨rfl, -⟩ := List.append_inj' hLocation rfl
  have hPassed := hFront skipped (List.mem_append_right _ List.mem_cons_self)
  rw [hSkipped] at hPassed
  cases hPassed

/-- An entry of an entered folder that is not ignored leads to a file. -/
def Reaches (filter : Filter) (disk : Disk) (root : Location) (links : Nat) (folder : Location)
    (name : Name) (location : Location) : Prop :=
  (∃ relative, Entered filter disk root relative folder ∧
    filter.isIgnored (relative.join name.text) = false) ∧
  ∃ content links', disk.follow ⟨folder, [.enter name], links⟩ =
    .ok (.taken location (.file content) links')

/-- What is visited is a file, or a link that leads to one, and is not ignored. -/
theorem follow_of_visit {plan : Plan} {disk : Disk} {folder : Location} {links : Nat}
    {name : Name} {path relative : Path} {content : Bytes}
    (hVisit : plan.judge disk folder links name path relative = .visit content) :
    plan.filter.isIgnored relative = false ∧ ∃ location links',
      disk.follow ⟨folder, [.enter name], links⟩ =
        .ok (.taken location (.file content) links') := by
  obtain ⟨hFile, hNode⟩ := Plan.judge_eq_visit hVisit
  obtain ⟨-, -, hPassed, -⟩ := Plan.judgeFile_eq_visit_iff.mp hFile
  refine ⟨(Filter.check_file_eq_eligible_iff.mp hPassed).1, ?_⟩
  rcases hNode with hNode | ⟨target, -, hNode⟩
  · refine ⟨folder ++ [name], links, ?_⟩
    rw [Disk.follow, Disk.find_enter (by simp [hNode]), hNode]
  · exact Disk.follow_of_node hNode

/-- The disk has changed only in the contents of files that are reached. -/
structure Confined (filter : Filter) (disk : Disk) (root : Location) (links : Nat)
    (after : Disk) : Prop where
  sameShape : disk.SameShape after
  reached : ∀ location, after.get? location ≠ disk.get? location →
    ∃ folder name, Reaches filter disk root links folder name location

namespace Confined

variable {filter : Filter} {disk after : Disk} {root folder location : Location} {links : Nat}
  {relative : Path} {name : Name}

theorem refl : Confined filter disk root links disk :=
  ⟨.refl disk, fun _ hChanged => absurd rfl hChanged⟩

theorem get?_folder (hConfined : Confined filter disk root links after)
    (hFolder : after.get? location = some .folder) : disk.get? location = some .folder := by
  have hShape := hConfined.sameShape.shape location
  rw [hFolder] at hShape
  obtain ⟨node, hNode, hSame⟩ := Option.map_eq_some_iff.mp hShape.symm
  cases node <;> cases hSame
  exact hNode

/-- A change of a node is a change of what a file holds. -/
theorem files_of_ne (hConfined : Confined filter disk root links after)
    (hChanged : after.get? location ≠ disk.get? location) :
    ∃ old new, disk.get? location = some (.file old) ∧
      after.get? location = some (.file new) := by
  have hShape := hConfined.sameShape.shape location
  cases hAfter : after.get? location with
  | none =>
      rw [hAfter] at hShape hChanged
      exact absurd (Option.map_eq_none_iff.mp hShape.symm).symm hChanged
  | some new =>
      rw [hAfter] at hShape hChanged
      obtain ⟨old, hOld, hSame⟩ := Option.map_eq_some_iff.mp hShape.symm
      rw [hOld] at hChanged
      cases old <;> cases new <;> cases hSame
      · exact ⟨_, _, hOld, rfl⟩
      · exact absurd rfl hChanged
      · exact absurd rfl hChanged

/-- A write under the address of an entry that is visited. -/
theorem write (hConfined : Confined filter disk root links after)
    (hEntered : Entered filter disk root relative folder)
    (hIgnored : filter.isIgnored (relative.join name.text) = false) {content content' : Bytes}
    {links' : Nat} {written : Disk}
    (hFollow : after.follow ⟨folder, [.enter name], links⟩ =
      .ok (.taken location (.file content) links'))
    (hWrite : after.write ⟨folder, [.enter name], links⟩ content' = .ok written) :
    Confined filter disk root links written := by
  rw [Disk.write, hFollow] at hWrite
  obtain rfl := Except.ok.inj hWrite
  obtain ⟨old, hBefore⟩ := Disk.follow_of_sameShape hConfined.sameShape hFollow
  constructor
  · have hFile := Disk.get?_of_find hFollow (by simp)
    exact hConfined.sameShape.trans (Disk.sameShape_put hFile content')
  · intro other hChanged
    by_cases hSame : other = location
    · exact ⟨folder, name, ⟨relative, hEntered, hIgnored⟩, old, links', hSame ▸ hBefore⟩
    · rw [Disk.get?_put_of_ne _ _ hSame] at hChanged
      exact hConfined.reached other hChanged

end Confined

end Walk

namespace Engine

open Walk

/-- A walk that puts values in place changes only files that are reached. -/
theorem confined_replace (engine : Engine) (disk : Disk) (root : Path) (values : Values)
    {base : Location} {links : Nat} (hRoot : disk.enter root.address = .ok (base, links)) :
    Confined (engine.filterFor values) disk base links
      (engine.replace disk root values).disk := by
  have hInside : Entered (engine.filterFor values) disk base ⟨""⟩ base := .root
  refine disk_pass _ _ (keeps_run ?_ ?_ hRoot hInside .refl)
  · intro now path relative folder name hNow hEntered hFolder
    obtain ⟨hNode, hPassed⟩ := Plan.judge_eq_folder_iff.mp hFolder
    exact hEntered.enter (hNow.get?_folder hNode) hPassed
  · intro progress path relative folder name content hNow hEntered hVisit
    obtain ⟨hIgnored, location, links', hFollow⟩ := follow_of_visit hVisit
    refine (engine.ends_replaceFile values _ _).mono ?_ ?_
    · rintro after (hSame | hWrite)
      · exact hSame ▸ hNow
      · exact hNow.write hEntered hIgnored hFollow hWrite
    · rintro stopped hSame
      exact hSame ▸ hNow

/-- One link leads out of the root, the other into a folder that is never entered. -/
theorem replace_writes_through_links :
    let folder : Name := ⟨"r", by decide⟩
    let outside : Location := [⟨"out", by decide⟩]
    let skipped : Location := [folder, ⟨"vendor", by decide⟩, ⟨"b", by decide⟩]
    let disk := (((((Disk.empty.put [folder] .folder).put outside
      (.file (Text.Utf8.encode "[[A]]"))).put [folder, ⟨"vendor", by decide⟩] .folder).put skipped
      (.file (Text.Utf8.encode "[[A]]"))).put [folder, ⟨"l", by decide⟩] (.link ⟨"../out"⟩)).put
      [folder, ⟨"m", by decide⟩] (.link ⟨"vendor/b"⟩)
    let engine : Engine := ⟨{}, 3145728, rfl, by decide, by decide, by decide⟩
    let outcome := engine.replace disk ⟨"r"⟩ { assignments := [⟨"A", "x"⟩] }
    engine.config.dryRun = false ∧
    (disk.enter (Path.address ⟨"r"⟩)).toOption = some ([folder], 40) ∧
    ¬ [folder] <+: outside ∧ IsSkipped [folder] skipped ∧
    disk.get? outside = some (.file (Text.Utf8.encode "[[A]]")) ∧
    outcome.disk.get? outside = some (.file (Text.Utf8.encode "x")) ∧
    disk.get? skipped = some (.file (Text.Utf8.encode "[[A]]")) ∧
    outcome.disk.get? skipped = some (.file (Text.Utf8.encode "x")) := by
  intro folder outside skipped disk engine outcome
  refine ⟨rfl, by decide +kernel, by decide, ?_, by decide +kernel, by decide +kernel,
    by decide +kernel, by decide +kernel⟩
  exact ⟨[], ⟨"vendor", by decide⟩, [⟨"b", by decide⟩], rfl, by simp, by decide⟩

/-- Putting values in place changes nothing but the contents of files. A file that it changes
outside of the root, or below a folder that is never entered, is one that a link leads to, and the
link lies in the root, below no such folder, and is not ignored. -/
theorem replace_leaves_alone_what_no_link_reaches (engine : Engine) (disk : Disk) (root : Path)
    (values : Values) (base : Location) (links : Nat) (location : Location)
    (hRoot : disk.enter root.address = .ok (base, links))
    (hChanged : (engine.replace disk root values).disk.get? location ≠ disk.get? location) :
    (∃ old new, disk.get? location = some (.file old) ∧
      (engine.replace disk root values).disk.get? location = some (.file new)) ∧
    (¬ base <+: location ∨ IsSkipped base location →
      ∃ folder name target, disk.get? (folder ++ [name]) = some (.link target) ∧
        Reaches (engine.filterFor values) disk base links folder name location ∧
        base <+: folder ++ [name] ∧ ¬ IsSkipped base (folder ++ [name])) := by
  have hConfined := engine.confined_replace disk root values hRoot
  refine ⟨hConfined.files_of_ne hChanged, fun hBeyond => ?_⟩
  obtain ⟨folder, name, hReaches⟩ := hConfined.reached location hChanged
  have ⟨⟨relative, hEntered, _⟩, content, links', hFollow⟩ := hReaches
  obtain ⟨hInside, hNotSkipped⟩ := hEntered.inside name
  by_cases hLink : ∃ target, disk.get? (folder ++ [name]) = some (.link target)
  · obtain ⟨target, hLink⟩ := hLink
    exact ⟨folder, name, target, hLink, hReaches, hInside, hNotSkipped⟩
  · -- an entry that is no link leads to itself
    rw [Disk.follow, Disk.find_enter (not_exists.mp hLink)] at hFollow
    cases hNode : disk.get? (folder ++ [name]) with
    | none =>
        rw [hNode] at hFollow
        cases hFollow
    | some node =>
        rw [hNode] at hFollow
        cases hFollow
        rcases hBeyond with hOutside | hSkipped
        · exact absurd hInside hOutside
        · exact absurd hSkipped hNotSkipped

/-- The working folder holds the root, and an absolute link leads from the root to the top. -/
theorem replace_leaves_alone_what_no_link_reaches_from_outside :
    let root : Location := [⟨"w", by decide⟩, ⟨"r", by decide⟩]
    let outside : Location := [⟨"out", by decide⟩]
    let disk := (((Disk.workingIn ⟨"/w"⟩).put root .folder).put outside
      (.file (Text.Utf8.encode "[[A]]"))).put (root ++ [⟨"l", by decide⟩]) (.link ⟨"/out"⟩)
    let engine : Engine := ⟨{}, 3145728, rfl, by decide, by decide, by decide⟩
    let values : Values := { assignments := [⟨"A", "x"⟩] }
    disk.enter (Path.address ⟨"r"⟩) = .ok (root, 40) ∧
    (engine.replace disk ⟨"r"⟩ values).disk.get? outside ≠ disk.get? outside ∧
    ¬ root <+: outside ∧
    ∃ folder name target, disk.get? (folder ++ [name]) = some (.link target) ∧
      Reaches (engine.filterFor values) disk root 40 folder name outside ∧
      root <+: folder ++ [name] ∧ ¬ IsSkipped root (folder ++ [name]) := by
  intro root outside disk engine values
  have hRoot : disk.enter (Path.address ⟨"r"⟩) = .ok (root, 40) := by decide +kernel
  have hChanged : (engine.replace disk ⟨"r"⟩ values).disk.get? outside ≠ disk.get? outside := by
    decide +kernel
  have hOutside : ¬ root <+: outside := by decide
  exact ⟨hRoot, hChanged, hOutside, (replace_leaves_alone_what_no_link_reaches engine disk ⟨"r"⟩
    values root 40 outside hRoot hChanged).2 (.inl hOutside)⟩

end Engine

end Stencil
