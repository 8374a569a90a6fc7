import Stencil.Proofs.Disk.LinkFree
import Stencil.Proofs.Path
import Stencil.Proofs.Walk.Invariant
import Stencil.Proofs.Walk.Itinerary
import Stencil.Proofs.Walk.Verdict

/-! Visitors that a walk need not fear. On a disk without links, a walk has left behind the names
in a folder when it visits the first file there, and has left behind a name when it visits a
later one. So a visitor that keeps to the folder of its file, and there to names that do not come
after that of its file, changes nothing that the walk still has to look at. -/

namespace Stencil.Walk

variable {β : Type}

/-- A file as a walk finds it: its address takes one step from its folder, and its path ends with
its name. -/
structure Visited.Found (file : Visited) : Prop where
  steps_eq : file.place.address.steps = [.enter file.name]
  fileName?_eq : file.place.path.fileName? = some file.name.text

/-- Where a found file lies. -/
def Visited.location (file : Visited) : Location := file.place.address.folder ++ [file.name]

theorem Visited.address_eq {file : Visited} (hFound : file.Found) :
    file.place.address =
      ⟨file.place.address.folder, [.enter file.name], file.place.address.links⟩ := by
  rw [← hFound.steps_eq]

/-- One file lies in another folder than a second, or in front of it. -/
def Visited.Precedes (first second : Visited) : Prop :=
  second.place.address.folder = first.place.address.folder → first.name.text < second.name.text

/-- What a visit to a file may change. -/
structure Nearby (file : Visited) (before after : Disk) : Prop where
  linkFree : after.LinkFree
  listing_eq : ∀ folder ≠ file.place.address.folder,
    after.listing folder = before.listing folder
  get?_eq : ∀ folder name,
    (folder = file.place.address.folder → file.name.text < name.text) →
      after.get? (folder ++ [name]) = before.get? (folder ++ [name])

theorem Nearby.refl {file : Visited} {disk : Disk} (hFree : disk.LinkFree) :
    Nearby file disk disk :=
  ⟨hFree, fun _ _ => rfl, fun _ _ _ => rfl⟩

namespace Nearby

variable {file : Visited} {before after : Disk} {short : Name}

theorem ne_child {folder : Location} {name : Name} (hFolder : folder ≠ file.place.address.folder) :
    file.place.address.folder ++ [short] ≠ folder ++ [name] :=
  fun hSame => hFolder (List.append_inj' hSame rfl).1.symm

theorem ne_later {folder : Location} {name : Name} (hShort : short.text ≤ file.name.text)
    (hLater : folder = file.place.address.folder → file.name.text < name.text) :
    folder ++ [name] ≠ file.place.address.folder ++ [short] := by
  intro hSame
  obtain ⟨hFolder, hName⟩ := List.append_inj' hSame rfl
  have hLess := hLater hFolder
  rw [List.singleton_inj.mp hName] at hLess
  exact absurd hShort (not_le.mpr hLess)

theorem put (hNearby : Nearby file before after) (content : Bytes)
    (hShort : short.text ≤ file.name.text) :
    Nearby file before (after.put (file.place.address.folder ++ [short]) (.file content)) := by
  refine ⟨hNearby.linkFree.put _ content, ?_, ?_⟩
  · intro folder hFolder
    rw [Disk.listing_put_of_not_child _ _ fun name => ne_child hFolder]
    exact hNearby.listing_eq folder hFolder
  · intro folder name hLater
    rw [Disk.get?_put_of_ne _ _ (ne_later hShort hLater)]
    exact hNearby.get?_eq folder name hLater

theorem erase (hNearby : Nearby file before after) (hShort : short.text ≤ file.name.text) :
    Nearby file before (after.erase (file.place.address.folder ++ [short])) := by
  refine ⟨hNearby.linkFree.erase _, ?_, ?_⟩
  · intro folder hFolder
    rw [Disk.listing_erase_of_not_child _ fun name => ne_child hFolder]
    exact hNearby.listing_eq folder hFolder
  · intro folder name hLater
    rw [Disk.get?_erase_of_ne _ (ne_later hShort hLater)]
    exact hNearby.get?_eq folder name hLater

end Nearby

/-- Each visit to a file that is there changes no more than it may. -/
def Careful (visit : Visited → Progress β → Result β) : Prop :=
  ∀ file progress after, file.Found → progress.disk.LinkFree →
    progress.disk.get? file.location = some (.file file.content) →
    visit file progress = .ok after → Nearby file progress.disk after.disk

/-- Without links, the verdict on an entry goes by what stands at its location. -/
theorem Plan.look_congr (plan : Plan) {disk disk' : Disk} {links : Nat} {path relative : Path}
    {folder : Location} {name : Name} (hFree : disk.LinkFree)
    (hSame : disk'.get? (folder ++ [name]) = disk.get? (folder ++ [name])) :
    plan.look disk' links path relative folder name =
      plan.look disk links path relative folder name :=
  judge_congr_disk (hFree _) hSame

namespace Waypoint

/-- The folder that a waypoint lies in. -/
def location : Waypoint → Location
  | names _ location _ => location
  | entry _ _ location _ _ => location

/-- What a visit at the first waypoint may change is not looked at by the second. -/
def Before : Waypoint → Waypoint → Prop
  | names _ _ _, _ => True
  | entry _ _ location _ _, names _ other _ => other ≠ location
  | entry _ _ location name _, entry _ _ other later _ =>
      other = location → name.text < later.text

theorem before_of_ne {first second : Waypoint} (hLocation : second.location ≠ first.location) :
    first.Before second := by
  cases first with
  | names path location listing => trivial
  | entry path relative location name verdict =>
      cases second with
      | names path other listing => exact hLocation
      | entry path relative other later verdict => exact fun hSame => absurd hSame hLocation

theorem found_of_visited? {links : Nat} {point : Waypoint} {file : Visited}
    (hVisited : point.visited? links = some file) : file.Found := by
  unfold visited? at hVisited
  split at hVisited
  · cases hVisited
    exact ⟨rfl, Path.fileName?_join _ _⟩
  · cases hVisited

theorem eq_entry_of_visited? {links : Nat} {point : Waypoint} {file : Visited}
    (hVisited : point.visited? links = some file) :
    ∃ path relative, point = entry path relative file.place.address.folder file.name
      (.visit file.content) ∧ file.place.path = path.join file.name.text := by
  unfold visited? at hVisited
  split at hVisited
  · cases hVisited
    exact ⟨_, _, rfl, rfl⟩
  · cases hVisited

theorem content_of_holds {plan : Plan} {disk : Disk} {links : Nat} {point : Waypoint}
    {file : Visited} (hFree : disk.LinkFree) (hHolds : point.Holds plan links disk)
    (hVisited : point.visited? links = some file) :
    disk.get? file.location = some (.file file.content) ∧
      (plan.suffix?.any fun suffix => !Template.isTemplate file.place.path suffix) = false := by
  obtain ⟨path, relative, rfl, hPath⟩ := eq_entry_of_visited? hVisited
  have hVisit : plan.look disk links path relative file.place.address.folder file.name =
      .visit file.content := hHolds
  obtain ⟨hFile, hNode | ⟨target, hLink, -⟩⟩ := Plan.judge_eq_visit hVisit
  · obtain ⟨-, hSuffix, -⟩ := Plan.judgeFile_eq_visit_iff.mp hFile
    rw [hPath]
    exact ⟨hNode, hSuffix⟩
  · exact absurd hLink (hFree _ target)

end Waypoint

section Order

variable {plan : Plan} {disk : Disk} {links height : Nat} {path relative : Path}
  {folder : Location}

theorem isPrefix_of_mem_itinerary {point : Waypoint}
    (hMem : point ∈ itinerary plan disk links height path relative folder) :
    folder <+: point.location := by
  induction height generalizing path relative folder with
  | zero => exact absurd hMem List.not_mem_nil
  | succ height ih =>
      rcases List.mem_cons.mp hMem with rfl | hMem
      · exact List.prefix_rfl
      · rcases List.mem_append.mp hMem with hEntry | hBelow
        · obtain ⟨name, _, rfl⟩ := List.mem_map.mp hEntry
          exact List.prefix_rfl
        · obtain ⟨name, _, hInner⟩ := List.mem_flatMap.mp hBelow
          exact (List.prefix_append folder [name]).trans (ih hInner)

/-- A walk does not come back to what it has left behind. -/
theorem pairwise_itinerary :
    (itinerary plan disk links height path relative folder).Pairwise Waypoint.Before := by
  induction height generalizing path relative folder with
  | zero => exact List.Pairwise.nil
  | succ height ih =>
      rw [itinerary, List.pairwise_cons, List.pairwise_append, List.pairwise_map,
        List.pairwise_flatMap]
      refine ⟨fun _ _ => trivial, ?_, ⟨fun _ _ => ih, ?_⟩, ?_⟩
      · exact (disk.pairwise_listing folder).imp fun hLess _ => hLess
      · -- what lies below different names lies at different locations
        refine ((disk.nodup_listing folder).filter _).imp ?_
        intro name other hNames first hFirst second hSecond
        refine Waypoint.before_of_ne fun hSame => hNames ?_
        have hBelow := isPrefix_of_mem_itinerary hFirst
        have hBelow' := isPrefix_of_mem_itinerary hSecond
        rw [hSame] at hBelow'
        have hFolders := (List.prefix_of_prefix_length_le hBelow hBelow' (by simp)).eq_of_length
          (by simp)
        simpa using hFolders
      · intro first hFirst second hSecond
        obtain ⟨name, _, rfl⟩ := List.mem_map.mp hFirst
        obtain ⟨other, _, hInner⟩ := List.mem_flatMap.mp hSecond
        refine Waypoint.before_of_ne fun hSame => ?_
        have hLength := (isPrefix_of_mem_itinerary hInner).length_le
        rw [hSame] at hLength
        simp [Waypoint.location] at hLength

end Order

/-- What a walk puts on record by itself: lines for the log, and what it passes over. -/
def IsOwn : Notice → Bool
  | .line _ _ => true
  | .report (.ignored _) | .report (.sizeExceeded _ _ _) | .report (.binarySkipped _) => true
  | .report _ => false

/-- Between two visits a walk only keeps its record. -/
structure Between (before after : Progress β) : Prop where
  disk_eq : after.disk = before.disk
  visited_eq : after.visited = before.visited
  gathered_eq : after.gathered = before.gathered
  notices_eq : ∃ own, after.notices = before.notices ++ own ∧ ∀ notice ∈ own, IsOwn notice = true

namespace Between

variable {before middle after : Progress β}

theorem refl : Between before before :=
  ⟨rfl, rfl, rfl, [], (List.append_nil _).symm, fun _ hMem => absurd hMem List.not_mem_nil⟩

theorem trans (hFirst : Between before middle) (hSecond : Between middle after) :
    Between before after := by
  obtain ⟨own, hOwn, hAll⟩ := hFirst.notices_eq
  obtain ⟨own', hOwn', hAll'⟩ := hSecond.notices_eq
  refine ⟨hSecond.disk_eq.trans hFirst.disk_eq, hSecond.visited_eq.trans hFirst.visited_eq,
    hSecond.gathered_eq.trans hFirst.gathered_eq, own ++ own', ?_, ?_⟩
  · rw [hOwn', hOwn, List.append_assoc]
  · intro notice hMem
    rcases List.mem_append.mp hMem with hMem | hMem
    · exact hAll notice hMem
    · exact hAll' notice hMem

theorem say (level : Level) (text : String) : Between before (before.say level text) :=
  ⟨rfl, rfl, rfl, [.line level text], rfl, fun _ hMem => List.mem_singleton.mp hMem ▸ rfl⟩

theorem report {event : Event} (hOwn : IsOwn (.report event) = true) :
    Between before (before.report event) :=
  ⟨rfl, rfl, rfl, [.report event], rfl, fun _ hMem => List.mem_singleton.mp hMem ▸ hOwn⟩

theorem skip {event : Event} (hOwn : IsOwn (.report event) = true) :
    Between before (before.skip event) :=
  ⟨rfl, rfl, rfl, [.report event], rfl, fun _ hMem => List.mem_singleton.mp hMem ▸ hOwn⟩

end Between

section Step

variable {links : Nat}

/-- Only a visit does more at a waypoint than to keep a record. -/
theorem step_of_visited?_eq_none (visit : Visited → Progress β → Result β)
    (progress : Progress β) {point : Waypoint}
    (hVisited : point.visited? links = none) :
    ∃ after, point.step visit links progress = .ok after ∧ Between progress after := by
  cases point with
  | names path location listing => exact ⟨_, rfl, .say _ _⟩
  | entry path relative location name verdict =>
      cases verdict with
      | visit content => cases hVisited
      | dangling => exact ⟨_, rfl, .say _ _⟩
      | skippedFolder => exact ⟨_, rfl, .say _ _⟩
      | linkedFolder => exact ⟨_, rfl, .report rfl⟩
      | ignoredFolder => exact ⟨_, rfl, .report rfl⟩
      | folder => exact ⟨_, rfl, .refl⟩
      | unsuffixed => exact ⟨_, rfl, .refl⟩
      | ignoredFile => exact ⟨_, rfl, .skip rfl⟩
      | tooLarge size limit => exact ⟨_, rfl, .skip rfl⟩
      | binary => exact ⟨_, rfl, .skip rfl⟩

theorem step_of_visited? {visit : Visited → Progress β → Result β} {point : Waypoint}
    {file : Visited} {progress : Progress β}
    (hVisited : point.visited? links = some file) :
    point.step visit links progress =
      visit file { progress with visited := progress.visited + 1 } := by
  unfold Waypoint.visited? at hVisited
  split at hVisited
  · cases hVisited
    rfl
  · cases hVisited

end Step

section Visits

variable {plan : Plan} {visit : Visited → Progress β → Result β} {links : Nat}

theorem Nearby.holds {file : Visited} {before after : Disk} {point later : Waypoint}
    (hNearby : Nearby file before after) (hFree : before.LinkFree)
    (hVisited : point.visited? links = some file) (hBefore : point.Before later)
    (hHolds : later.Holds plan links before) : later.Holds plan links after := by
  obtain ⟨path, relative, rfl, -⟩ := Waypoint.eq_entry_of_visited? hVisited
  cases later with
  | names path other listing => exact (hNearby.listing_eq other hBefore).trans hHolds
  | entry path relative other name verdict =>
      exact (plan.look_congr hFree (hNearby.get?_eq other name hBefore)).trans hHolds

/-- A careful visitor changes nothing that the walk still has to look at. -/
theorem undisturbed_of_careful (hCareful : Careful visit) {points : List Waypoint}
    (hOrder : points.Pairwise Waypoint.Before) :
    Undisturbed plan visit links Disk.LinkFree points := by
  induction points with
  | nil => trivial
  | cons point rest ih =>
      obtain ⟨hBefore, hRest⟩ := List.pairwise_cons.mp hOrder
      refine ⟨?_, ih hRest⟩
      rintro progress after ⟨hFree, hHolds⟩ hStep
      have hLater : ∀ later ∈ rest, later.Holds plan links progress.disk := fun later hMem =>
        hHolds later (List.mem_cons_of_mem _ hMem)
      cases hVisited : point.visited? links with
      | none =>
          obtain ⟨next, hNext, hBetween⟩ := step_of_visited?_eq_none visit progress hVisited
          obtain rfl : next = after := Except.ok.inj (hNext.symm.trans hStep)
          rw [hBetween.disk_eq]
          exact ⟨hFree, hLater⟩
      | some file =>
          rw [step_of_visited? hVisited] at hStep
          obtain ⟨hContent, -⟩ := Waypoint.content_of_holds hFree (hHolds point List.mem_cons_self)
            hVisited
          have hNearby := hCareful file { progress with visited := progress.visited + 1 } after
            (Waypoint.found_of_visited? hVisited) hFree hContent hStep
          exact ⟨hNearby.linkFree, fun later hMem =>
            hNearby.holds hFree hVisited (hBefore later hMem) (hLater later hMem)⟩

section Rule

variable (Kept : List Visited → Progress β → Prop) (Stopped : Fault × Progress β → Prop)
  (hCareful : Careful visit)
  (hOwn : ∀ (todo : List Visited) (before after : Progress β), Between before after →
    Kept todo before → Kept todo after)
  (hVisit : ∀ (file : Visited) (todo : List Visited) (progress : Progress β),
    file.Found → progress.disk.LinkFree →
    progress.disk.get? file.location = some (.file file.content) →
    Kept (file :: todo) progress →
      Ends (Kept todo) Stopped (visit file { progress with visited := progress.visited + 1 }))

include hCareful hOwn hVisit

/-- What holds of the files yet to visit, and is kept up by each visit, holds at the end, or else
a visit stops the walk. -/
theorem ends_foldlM {points : List Waypoint} {progress : Progress β}
    (hOrder : points.Pairwise Waypoint.Before)
    (hReady : Ready plan links Disk.LinkFree points progress.disk)
    (hStart : Kept (points.filterMap (Waypoint.visited? links)) progress) :
    Ends (Kept []) Stopped
      (points.foldlM (m := Run β) (Waypoint.step visit links) progress) := by
  induction points generalizing progress with
  | nil => exact hStart
  | cons point rest ih =>
      have hNext := (show Undisturbed plan visit links Disk.LinkFree (point :: rest) from
        undisturbed_of_careful hCareful hOrder).1 progress
      have hRest := (List.pairwise_cons.mp hOrder).2
      rw [List.foldlM_cons]
      cases hVisited : point.visited? links with
      | none =>
          obtain ⟨next, hStep, hBetween⟩ := step_of_visited?_eq_none visit progress hVisited
          rw [List.filterMap_cons_none hVisited] at hStart
          rw [hStep]
          exact ih hRest (hNext next hReady hStep) (hOwn _ _ _ hBetween hStart)
      | some file =>
          rw [List.filterMap_cons_some hVisited] at hStart
          obtain ⟨hContent, -⟩ := Waypoint.content_of_holds hReady.1
            (hReady.2 point List.mem_cons_self) hVisited
          have hEnds := hVisit file _ progress (Waypoint.found_of_visited? hVisited) hReady.1
            hContent hStart
          rw [step_of_visited? hVisited]
          cases hStep : visit file { progress with visited := progress.visited + 1 } with
          | error stopped =>
              rw [hStep] at hEnds
              exact hEnds
          | ok next =>
              rw [hStep] at hEnds
              exact ih hRest (hNext next hReady ((step_of_visited? hVisited).trans hStep)) hEnds

/-- The rule for walks with a careful visitor: it deals with the files that there are before the
walk begins, in order, and finds each of them as it was. What is kept up has to allow for the
records that the walk makes in between. -/
theorem ends_run_recorded {root : Path} (progress : Progress β) (hFree : progress.disk.LinkFree)
    (hRoot : progress.disk.hasFolder root.address)
    (hStart : Kept (visits plan progress.disk root) progress) :
    Ends (Kept []) Stopped (run plan root visit progress) := by
  obtain ⟨folder, links, hEnter⟩ := Disk.hasFolder_iff.mp hRoot
  rw [run_eq rfl hFree hEnter (undisturbed_of_careful hCareful pairwise_itinerary)]
  rw [visits, hEnter] at hStart
  have hEnds := ends_foldlM Kept Stopped hCareful hOwn hVisit pairwise_itinerary
    ⟨hFree, fun point hMem => holds_of_mem_itinerary hMem⟩ hStart
  cases hWalk : (itinerary plan progress.disk links (progress.disk.depth + 1) root ⟨""⟩
      folder).foldlM (m := Run β) (Waypoint.step visit links) progress with
  | error stopped =>
      rw [hWalk] at hEnds
      exact hEnds
  | ok after =>
      rw [hWalk] at hEnds
      exact hOwn [] after (completed root after) (.say _ _) hEnds

end Rule

/-- The rule where no heed is paid to what is put on record. -/
theorem ends_run (Kept : List Visited → Disk → Nat → β → Prop)
    (Stopped : Fault × Progress β → Prop) (hCareful : Careful visit)
    (hVisit : ∀ (file : Visited) (todo : List Visited) (progress : Progress β),
      file.Found → progress.disk.LinkFree →
      progress.disk.get? file.location = some (.file file.content) →
      Kept (file :: todo) progress.disk progress.visited progress.gathered →
        Ends (fun after => Kept todo after.disk after.visited after.gathered) Stopped
          (visit file { progress with visited := progress.visited + 1 }))
    {root : Path} (progress : Progress β) (hFree : progress.disk.LinkFree)
    (hRoot : progress.disk.hasFolder root.address)
    (hStart : Kept (visits plan progress.disk root) progress.disk progress.visited
      progress.gathered) :
    Ends (fun after => Kept [] after.disk after.visited after.gathered) Stopped
      (run plan root visit progress) := by
  refine ends_run_recorded
    (fun todo progress => Kept todo progress.disk progress.visited progress.gathered) Stopped
    hCareful ?_ hVisit progress hFree hRoot hStart
  intro todo before after hBetween hKept
  rw [hBetween.disk_eq, hBetween.visited_eq, hBetween.gathered_eq]
  exact hKept

end Visits

end Stencil.Walk
