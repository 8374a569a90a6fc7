import Stencil.Proofs.Walk.Careful

/-! The files that a walk of an unchanging disk visits. On a disk without links they are the files
that stand there, each at a location of its own. -/

namespace Stencil.Walk

variable {plan : Plan} {disk : Disk} {root : Path} {file : Visited}

theorem exists_of_mem_visits (hMem : file ∈ visits plan disk root) :
    ∃ (links : Nat) (point : Waypoint),
      point.Holds plan links disk ∧ point.visited? links = some file := by
  unfold visits at hMem
  split at hMem
  · exact absurd hMem List.not_mem_nil
  · next folder links _ =>
      obtain ⟨point, hPoint, hVisited⟩ := List.mem_filterMap.mp hMem
      exact ⟨links, point, holds_of_mem_itinerary hPoint, hVisited⟩

theorem found_of_mem_visits (hMem : file ∈ visits plan disk root) : file.Found := by
  obtain ⟨links, point, -, hVisited⟩ := exists_of_mem_visits hMem
  exact Waypoint.found_of_visited? hVisited

/-- Only files are visited, and with a suffix only templates. -/
theorem content_of_mem_visits (hFree : disk.LinkFree) (hMem : file ∈ visits plan disk root) :
    disk.get? file.location = some (.file file.content) ∧
      (plan.suffix?.any fun suffix => !Template.isTemplate file.place.path suffix) = false := by
  obtain ⟨links, point, hHolds, hVisited⟩ := exists_of_mem_visits hMem
  exact Waypoint.content_of_holds hFree hHolds hVisited

/-- Files in one folder are visited in the order of their names. -/
theorem pairwise_visits : (visits plan disk root).Pairwise Visited.Precedes := by
  unfold visits
  split
  · exact List.Pairwise.nil
  · refine List.pairwise_filterMap.mpr (pairwise_itinerary.imp ?_)
    intro first second hBefore file hFile later hLater
    obtain ⟨path, relative, rfl, -⟩ := Waypoint.eq_entry_of_visited? hFile
    obtain ⟨path', relative', rfl, -⟩ := Waypoint.eq_entry_of_visited? hLater
    exact hBefore

section Plans

variable {plan plan' : Plan} (hCheck : plan.filter.check = plan'.filter.check)
  (hSuffix : plan.suffix? = plan'.suffix?)

include hCheck hSuffix

theorem judge_congr : plan.judge = plan'.judge := by
  have hFolder : plan.judgeFolder = plan'.judgeFolder := by
    funext relative
    rw [Plan.judgeFolder, Plan.judgeFolder, hCheck]
  have hFile : plan.judgeFile = plan'.judgeFile := by
    funext path relative content
    rw [Plan.judgeFile, Plan.judgeFile, hCheck, hSuffix]
  funext disk folder links name path relative
  rw [Plan.judge, Plan.judge, hFolder, hFile]

theorem itinerary_congr (disk : Disk) (links height : Nat) (path relative : Path)
    (folder : Location) :
    itinerary plan disk links height path relative folder =
      itinerary plan' disk links height path relative folder := by
  have hLook : plan.look = plan'.look := by
    funext disk links path relative folder name
    rw [Plan.look, Plan.look, judge_congr hCheck hSuffix]
  induction height generalizing path relative folder with
  | zero => rfl
  | succ height ih => simp only [itinerary, hLook, ih]

/-- Plans whose filters let the same pass visit the same files. -/
theorem visits_congr (disk : Disk) (root : Path) :
    visits plan disk root = visits plan' disk root := by
  simp only [visits, itinerary_congr hCheck hSuffix]

/-- Such plans make the same walk, also where visits change the disk. -/
theorem run_congr_plan {β : Type} (root : Path) (visit : Visited → Progress β → Result β)
    (progress : Progress β) : run plan root visit progress = run plan' root visit progress := by
  have hEntry : entry plan visit = entry plan' visit := by
    funext path relative folder links state name
    rw [entry, entry, judge_congr hCheck hSuffix]
  have hLevel (links height : Nat) :
      level plan visit links height = level plan' visit links height := by
    induction height with
    | zero => rfl
    | succ height ih =>
        funext path relative folder progress
        rw [level, level, hEntry, ih]
  rw [run, run]
  simp only [hLevel]

end Plans

/-- Visitors that agree on what a walk visits make the same walk. -/
theorem foldlM_congr {β : Type} {visit visit' : Visited → Progress β → Result β} {links : Nat}
    {points : List Waypoint}
    (hVisit : ∀ file ∈ points.filterMap (Waypoint.visited? links), visit file = visit' file)
    (progress : Progress β) :
    points.foldlM (m := Run β) (Waypoint.step visit links) progress =
      points.foldlM (m := Run β) (Waypoint.step visit' links) progress := by
  induction points generalizing progress with
  | nil => rfl
  | cons point rest ih =>
      have hRest : ∀ file ∈ rest.filterMap (Waypoint.visited? links), visit file = visit' file :=
        fun file hMem => hVisit file (by
          obtain ⟨other, hOther, hFile⟩ := List.mem_filterMap.mp hMem
          exact List.mem_filterMap.mpr ⟨other, List.mem_cons_of_mem _ hOther, hFile⟩)
      have hStep : point.step visit links progress = point.step visit' links progress := by
        cases hPoint : point.visited? links with
        | none =>
            cases point with
            | names path location listing => rfl
            | entry path relative location name verdict =>
                cases verdict with
                | visit content => cases hPoint
                | _ => rfl
        | some file =>
            rw [step_of_visited? hPoint, step_of_visited? hPoint, hVisit file
              (List.mem_filterMap.mpr ⟨point, List.mem_cons_self, hPoint⟩)]
      rw [List.foldlM_cons, List.foldlM_cons, hStep]
      exact bind_congr fun next => ih hRest next

/-- Careful visitors that agree on the files that there are before the walk begins make the same
walk. -/
theorem run_congr {β : Type} {visit visit' : Visited → Progress β → Result β}
    {progress : Progress β} (hCareful : Careful visit) (hCareful' : Careful visit')
    (hFree : progress.disk.LinkFree)
    (hVisit : ∀ file ∈ visits plan progress.disk root, visit file = visit' file) :
    run plan root visit progress = run plan root visit' progress := by
  cases hEnter : progress.disk.enter root.address with
  | error cause => rw [run, run, hEnter]
  | ok inside =>
      obtain ⟨folder, links⟩ := inside
      rw [visits, hEnter] at hVisit
      rw [run_eq rfl hFree hEnter (undisturbed_of_careful hCareful pairwise_itinerary),
        run_eq rfl hFree hEnter (undisturbed_of_careful hCareful' pairwise_itinerary),
        foldlM_congr hVisit]

end Stencil.Walk
