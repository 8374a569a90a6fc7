import Stencil.Proofs.Walk.Careful

/-! The calls that a walk makes of its visitor. As long as no call changes what the walk still has
to look at, there is one call for each file that was there to be visited, in order, and the first
that fails ends the walk. -/

namespace Stencil.Walk

variable {β : Type}

/-- All these files are visited, in order, and all visits succeed. A visit begins with what the one
before it left, apart from the records that the walk makes itself. -/
inductive Calls (visit : Visited → Progress β → Result β) :
    List Visited → Progress β → Progress β → Prop
  | done {before after : Progress β} (hBetween : Between before after) :
      Calls visit [] before after
  | goesOn {file : Visited} {files : List Visited} {before now next after : Progress β}
      (hBetween : Between before now)
      (hVisit : visit file { now with visited := now.visited + 1 } = .ok next)
      (hRest : Calls visit files next after) : Calls visit (file :: files) before after

/-- The visitor is called for the files in turn, either for all of them, or up to the first call
that fails, and then its fault is the result. -/
inductive Dispatches (visit : Visited → Progress β → Result β) :
    List Visited → Progress β → Result β → Prop
  | all {files : List Visited} {before after : Progress β}
      (hCalls : Calls visit files before after) :
      Dispatches visit files before (.ok after)
  | upTo {front back : List Visited} {file : Visited} {before now : Progress β}
      {stopped : Fault × Progress β} (hCalls : Calls visit front before now)
      (hVisit : visit file { now with visited := now.visited + 1 } = .error stopped) :
      Dispatches visit (front ++ file :: back) before (.error stopped)

section Dispatch

variable {visit : Visited → Progress β → Result β} {file : Visited} {files : List Visited}
  {before now next after : Progress β} {result : Result β}

theorem Calls.of_between (hBetween : Between before now) (hCalls : Calls visit files now after) :
    Calls visit files before after := by
  cases hCalls with
  | done hMore => exact .done (hBetween.trans hMore)
  | goesOn hMore hVisit hRest => exact .goesOn (hBetween.trans hMore) hVisit hRest

theorem Calls.completed (root : Path) (hCalls : Calls visit files before after) :
    Calls visit files before (completed root after) := by
  induction hCalls with
  | done hBetween => exact .done (hBetween.trans (.say _ _))
  | goesOn hBetween hVisit hRest ih => exact .goesOn hBetween hVisit ih

theorem Dispatches.of_between (hBetween : Between before now)
    (hResult : Dispatches visit files now result) : Dispatches visit files before result := by
  cases hResult with
  | all hCalls => exact .all (hCalls.of_between hBetween)
  | upTo hCalls hVisit => exact .upTo (hCalls.of_between hBetween) hVisit

theorem Dispatches.cons
    (hVisit : visit file { before with visited := before.visited + 1 } = .ok next)
    (hResult : Dispatches visit files next result) :
    Dispatches visit (file :: files) before result := by
  cases hResult with
  | all hCalls => exact .all (.goesOn .refl hVisit hCalls)
  | @upTo front back other _ now stopped hCalls hStopped =>
      show Dispatches visit (file :: front ++ other :: back) before (.error stopped)
      exact .upTo (.goesOn .refl hVisit hCalls) hStopped

theorem Dispatches.map_completed (root : Path) (hResult : Dispatches visit files before result) :
    Dispatches visit files before (result.map (Walk.completed root)) := by
  cases hResult with
  | all hCalls => exact .all (hCalls.completed root)
  | upTo hCalls hVisit => exact .upTo hCalls hVisit

theorem Dispatches.calls (hResult : Dispatches visit files before (.ok after)) :
    Calls visit files before after := by
  cases hResult with
  | all hCalls => exact hCalls

/-- Where every call succeeds, all calls are made. -/
theorem Dispatches.ok_of_succeeds (hResult : Dispatches visit files before result)
    (hVisit : ∀ file progress, ∃ after, visit file progress = .ok after) :
    ∃ after, result = .ok after := by
  cases hResult with
  | all hCalls => exact ⟨_, rfl⟩
  | @upTo front back file _ now stopped hCalls hStopped =>
      obtain ⟨after, hAfter⟩ := hVisit file { now with visited := now.visited + 1 }
      rw [hAfter] at hStopped
      cases hStopped

end Dispatch

section Following

variable {plan : Plan} {visit : Visited → Progress β → Result β} {links : Nat}

theorem dispatches_foldlM (points : List Waypoint) (progress : Progress β) :
    Dispatches visit (points.filterMap (Waypoint.visited? links)) progress
      (points.foldlM (m := Run β) (Waypoint.step visit links) progress) := by
  induction points generalizing progress with
  | nil => exact .all (.done .refl)
  | cons point points ih =>
      rw [List.foldlM_cons]
      cases hVisited : point.visited? links with
      | none =>
          obtain ⟨after, hStep, hBetween⟩ := step_of_visited?_eq_none visit progress hVisited
          rw [List.filterMap_cons_none hVisited, hStep]
          exact (ih after).of_between hBetween
      | some file =>
          rw [List.filterMap_cons_some hVisited, step_of_visited? hVisited]
          cases hVisit : visit file { progress with visited := progress.visited + 1 } with
          | error stopped =>
              show Dispatches visit ([] ++ file :: _) progress (.error stopped)
              exact .upTo (.done .refl) hVisit
          | ok after => exact (ih after).cons hVisit

/-- A walk that no step disturbs calls its visitor for the files that were there to be visited. -/
theorem dispatches_run {Sound : Disk → Prop} {root : Path} {folder : Location}
    {progress : Progress β} (hSound : Sound progress.disk)
    (hRoot : progress.disk.enter root.address = .ok (folder, links))
    (hPoints : Undisturbed plan visit links Sound
      (itinerary plan progress.disk links (progress.disk.depth + 1) root ⟨""⟩ folder)) :
    Dispatches visit (visits plan progress.disk root) progress
      (run plan root visit progress) := by
  rw [run_eq rfl hSound hRoot hPoints, visits, hRoot]
  exact (dispatches_foldlM _ progress).map_completed root

/-- On a disk without links, a careful visitor is called for the files that were there before the
walk began. -/
theorem dispatches_run_of_careful (plan : Plan) {root : Path} (progress : Progress β)
    (hCareful : Careful visit) (hFree : progress.disk.LinkFree)
    (hRoot : progress.disk.hasFolder root.address = true) :
    Dispatches visit (visits plan progress.disk root) progress
      (run plan root visit progress) := by
  obtain ⟨folder, links, hEnter⟩ := Disk.hasFolder_iff.mp hRoot
  exact dispatches_run hFree hEnter (undisturbed_of_careful hCareful pairwise_itinerary)

/-- Visits that leave the disk as it is disturb no walk. -/
theorem undisturbed_of_keeps {disk : Disk} {points : List Waypoint}
    (hKeeps : ∀ file ∈ points.filterMap (Waypoint.visited? links), ∀ now after : Progress β,
      now.disk = disk → visit file now = .ok after → after.disk = disk) :
    Undisturbed plan visit links (· = disk) points := by
  induction points with
  | nil => trivial
  | cons point rest ih =>
      refine ⟨?_, ih fun file hMem => ?_⟩
      · rintro progress after ⟨rfl, hHolds⟩ hStep
        have hDisk : after.disk = progress.disk := by
          cases hVisited : point.visited? links with
          | none =>
              obtain ⟨next, hNext, hBetween⟩ := step_of_visited?_eq_none visit progress hVisited
              obtain rfl : next = after := Except.ok.inj (hNext.symm.trans hStep)
              exact hBetween.disk_eq
          | some file =>
              rw [step_of_visited? hVisited] at hStep
              rw [List.filterMap_cons_some hVisited] at hKeeps
              exact hKeeps file List.mem_cons_self
                { progress with visited := progress.visited + 1 } after rfl hStep
        refine ⟨hDisk, fun later hMem => ?_⟩
        rw [hDisk]
        exact hHolds later (List.mem_cons_of_mem _ hMem)
      · obtain ⟨other, hOther, hFile⟩ := List.mem_filterMap.mp hMem
        exact hKeeps file (List.mem_filterMap.mpr ⟨other, List.mem_cons_of_mem _ hOther, hFile⟩)

/-- A visitor that changes no disk. -/
def KeepsDisk (visit : Visited → Progress β → Result β) : Prop :=
  ∀ file progress after, visit file progress = .ok after → after.disk = progress.disk

theorem undisturbed_of_keepsDisk (hKeeps : KeepsDisk visit) (disk : Disk)
    (points : List Waypoint) : Undisturbed plan visit links (· = disk) points :=
  undisturbed_of_keeps fun file _ now after hDisk hVisit =>
    (hKeeps file now after hVisit).trans hDisk

/-- On any disk, a visitor that does not change it is called for the files that are there. -/
theorem dispatches_run_of_keepsDisk {root : Path} {progress : Progress β} {folder : Location}
    (hKeeps : KeepsDisk visit)
    (hRoot : progress.disk.enter root.address = .ok (folder, links)) :
    Dispatches visit (visits plan progress.disk root) progress
      (run plan root visit progress) := by
  refine dispatches_run ?_ hRoot (undisturbed_of_keepsDisk hKeeps progress.disk _)
  rfl

end Following

end Stencil.Walk
