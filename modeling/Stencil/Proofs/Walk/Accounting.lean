import Mathlib.Data.List.Perm.Subperm
import Stencil.Proofs.Walk.Entered
import Stencil.Proofs.Walk.Record

/-! What the counts and the reports of a walk add up to. Each entry of the folders that a walk
enters is visited, or reported by the walk itself, or neither, and the counts go by the same
cases. -/

namespace Stencil

/-- Whether an address leads to a file. -/
def Disk.hasFile (disk : Disk) (address : Address) : Bool :=
  match disk.node address with
  | .ok (.file _) => true
  | _ => false

/-- The path of an entry, in the reports that a walk makes itself. -/
def Event.passed? : Event → Option Path
  | .ignored path | .sizeExceeded path _ _ | .binarySkipped path => some path
  | _ => none

/-- Whether a report is about a file that was passed over. What is ignored may be a folder. -/
def Event.isOfFile (disk : Disk) : Event → Bool
  | .sizeExceeded _ _ _ | .binarySkipped _ => true
  | .ignored path => disk.hasFile path.address
  | _ => false

namespace Walk

/-- Whether an entry is counted: it is a file that no suffix keeps out. -/
def Verdict.isFile : Verdict → Bool
  | .visit _ | .ignoredFile | .tooLarge _ _ | .binary => true
  | _ => false

/-- Whether an entry is a folder that is reported. -/
def Verdict.isLeftFolder : Verdict → Bool
  | .linkedFolder | .ignoredFolder => true
  | _ => false

namespace Plan

variable {plan : Plan} {disk : Disk} {folder : Location} {links : Nat} {name : Name}
  {path relative : Path} {content : Bytes}

theorem isFile_judgeFile :
    (plan.judgeFile path relative content).isFile =
      !plan.suffix?.any fun suffix => !Template.isTemplate path suffix := by
  rw [judgeFile]
  cases plan.suffix?.any fun suffix => !Template.isTemplate path suffix with
  | true => rfl
  | false =>
      rw [if_neg Bool.false_ne_true]
      cases plan.filter.check relative false content.length with
      | eligible => cases Binary.isFile path content <;> rfl
      | _ => rfl

theorem isLeftFolder_judgeFile : (plan.judgeFile path relative content).isLeftFolder = false := by
  rw [judgeFile]
  split
  · rfl
  · split
    · rfl
    · split <;> rfl
    · rfl

theorem isFile_judgeFolder : (plan.judgeFolder relative).isFile = false := by
  rw [judgeFolder]
  split <;> rfl

theorem isLeftFolder_judgeFolder :
    (plan.judgeFolder relative).isLeftFolder = plan.filter.isIgnored relative := by
  rw [judgeFolder, Filter.check]
  cases plan.filter.isIgnored relative with
  | true => rfl
  | false => cases Filter.isSkippedFolder (relative.fileName?.getD "") <;> rfl

theorem isFile_judge_iff :
    (plan.judge disk folder links name path relative).isFile = true ↔
      disk.hasFile ⟨folder, [.enter name], links⟩ = true ∧
        (plan.suffix?.any fun suffix => !Template.isTemplate path suffix) = false := by
  have hJudges := plan.judges_judge disk folder links name path relative
  rw [Disk.hasFile]
  generalize plan.judge disk folder links name path relative = verdict at hJudges ⊢
  cases hJudges with
  | file hNode => simp [hNode, isFile_judgeFile]
  | folder hHere => simp [Disk.node_of_get? hHere (by simp), isFile_judgeFolder]
  | linked hHere hNode => simp [hNode, Verdict.isFile]
  | dangling hFile hFolder =>
      split
      · next content hNode => exact absurd hNode (hFile content)
      · simp [Verdict.isFile]

/-- A folder that is not entered is reported if it is ignored or a link leads to it. -/
theorem isLeftFolder_judge_iff :
    (plan.judge disk folder links name path relative).isLeftFolder = true ↔
      disk.node ⟨folder, [.enter name], links⟩ = .ok .folder ∧
        ((∃ target, disk.get? (folder ++ [name]) = some (.link target)) ∨
          disk.get? (folder ++ [name]) = some .folder ∧ plan.filter.isIgnored relative = true) := by
  have hJudges := plan.judges_judge disk folder links name path relative
  generalize plan.judge disk folder links name path relative = verdict at hJudges ⊢
  cases hJudges with
  | file hNode => simp [hNode, isLeftFolder_judgeFile]
  | folder hHere => simp [Disk.node_of_get? hHere (by simp), hHere, isLeftFolder_judgeFolder]
  | linked hHere hNode => simp [hHere, hNode, Verdict.isLeftFolder]
  | dangling hFile hFolder => simp [hFolder, Verdict.isLeftFolder]

end Plan

namespace Waypoint

/-- What a walk reports itself at a waypoint. -/
def reports (point : Waypoint) : List Event := Notice.events point.said

/-- The path of the entry that is looked at, if it is one. -/
def shown? : Waypoint → Option Path
  | names _ _ _ => none
  | entry path _ _ name _ => some (path.join name.text)

/-- Whether the entry that is looked at is counted. -/
def isFile : Waypoint → Bool
  | names _ _ _ => false
  | entry _ _ _ _ verdict => verdict.isFile

end Waypoint

section Points

variable {plan : Plan} {disk : Disk} {links : Nat} {root : Path} {base : Location}
  {names : List Name} {name : Name} {points : List Waypoint}

/-- A file that is counted is either visited or skipped. -/
theorem length_visited_add_countP_isSkip (links : Nat) (points : List Waypoint) :
    (points.filterMap (Waypoint.visited? links)).length + points.countP Waypoint.isSkip =
      ((points.filter Waypoint.isFile).filterMap Waypoint.shown?).length := by
  induction points with
  | nil => rfl
  | cons point points ih =>
      cases point with
      | names path location listing => exact ih
      | entry path relative location name verdict =>
          cases verdict with
          | visit content =>
              have hSkip : ¬ (Waypoint.entry path relative location name (.visit content)).isSkip =
                  true := Bool.false_ne_true
              rw [List.filterMap_cons_some (by rfl), List.countP_cons_of_neg hSkip,
                List.filter_cons_of_pos (by rfl), List.filterMap_cons_some (by rfl),
                List.length_cons, List.length_cons, ← ih]
              omega
          | ignoredFile | tooLarge | binary =>
              rw [List.filterMap_cons_none (by rfl), List.countP_cons_of_pos (by rfl),
                List.filter_cons_of_pos (by rfl), List.filterMap_cons_some (by rfl),
                List.length_cons, ← ih, Nat.add_assoc]
          | dangling | linkedFolder | ignoredFolder | skippedFolder | folder | unsuffixed =>
              exact ih

/-- No entry is visited and reported, or reported twice. -/
theorem paths_subperm (links : Nat) (points : List Waypoint) :
    ((points.filterMap (Waypoint.visited? links)).map (fun file => file.place.path) ++
        (points.flatMap Waypoint.reports).filterMap Event.passed?).Subperm
      (points.filterMap Waypoint.shown?) := by
  induction points with
  | nil => exact List.Subperm.refl _
  | cons point points ih =>
      rw [List.flatMap_cons, List.filterMap_append]
      cases point with
      | names path location listing => exact ih
      | entry path relative location name verdict =>
          have hShown : (Waypoint.entry path relative location name verdict :: points).filterMap
              Waypoint.shown? = path.join name.text :: points.filterMap Waypoint.shown? := rfl
          rw [hShown]
          cases verdict with
          | visit content => exact (List.subperm_cons _).mpr ih
          | ignoredFile | tooLarge | binary | linkedFolder | ignoredFolder =>
              exact List.perm_middle.subperm.trans ((List.subperm_cons _).mpr ih)
          | dangling | skippedFolder | folder | unsuffixed =>
              exact ih.cons_right _

/-- Different entries have different paths. -/
theorem nodup_shown :
    ((itinerary plan disk links (disk.depth + 1) root ⟨""⟩ base).filterMap
      Waypoint.shown?).Nodup := by
  refine List.pairwise_filterMap.mpr (pairwise_itinerary.imp_of_mem ?_)
  intro first second hFirst hSecond hBefore shown hShown shown' hShown'
  cases first with
  | names path location listing => cases hShown
  | entry path relative location name verdict =>
      cases second with
      | names path location listing => cases hShown'
      | entry path' relative' location' name' verdict' =>
          obtain ⟨names, -, rfl, -, rfl, -⟩ := mem_itinerary_entry_iff.mp hFirst
          obtain ⟨names', -, rfl, -, rfl, -⟩ := mem_itinerary_entry_iff.mp hSecond
          cases hShown
          cases hShown'
          rw [← Path.descend_concat, ← Path.descend_concat]
          intro hSame
          have hNames := Path.descend_injective (by simp) (by simp) hSame
          obtain ⟨rfl, hName⟩ := List.append_inj' hNames rfl
          obtain rfl := List.singleton_inj.mp hName
          exact lt_irrefl _ (hBefore rfl)

/-- An entry is counted if it leads to a file and no suffix keeps it out. -/
theorem Meets.isFile_look_iff (hRoot : disk.enter root.address = .ok (base, links))
    (hMeets : Meets plan.filter disk base names name) :
    (plan.look disk links (root.descend names) (Path.descend ⟨""⟩ names) (base ++ names)
        name).isFile = true ↔
      disk.hasFile (root.descend (names ++ [name])).address = true ∧
        ∀ suffix ∈ plan.suffix?, ∃ stem, stem ≠ "" ∧ name.text = stem ++ suffix := by
  rw [Plan.look, Plan.isFile_judge_iff, any_isTemplate_eq_false_iff, Disk.hasFile, Disk.hasFile,
    hMeets.node_eq hRoot]

theorem Meets.isLeftFolder_look_iff (hRoot : disk.enter root.address = .ok (base, links))
    (hMeets : Meets plan.filter disk base names name) :
    (plan.look disk links (root.descend names) (Path.descend ⟨""⟩ names) (base ++ names)
        name).isLeftFolder = true ↔
      disk.node (root.descend (names ++ [name])).address = .ok .folder ∧
        ((∃ target, disk.get? (base ++ names ++ [name]) = some (.link target)) ∨
          disk.get? (base ++ names ++ [name]) = some .folder ∧
            plan.filter.isIgnored (Path.descend ⟨""⟩ (names ++ [name])) = true) := by
  rw [Plan.look, Plan.isLeftFolder_judge_iff, hMeets.node_eq hRoot, Path.descend_concat]

/-- What is skipped is reported as a file, and a folder is not. -/
theorem countP_reports (hRoot : disk.enter root.address = .ok (base, links)) {point : Waypoint}
    (hMem : point ∈ itinerary plan disk links (disk.depth + 1) root ⟨""⟩ base) :
    point.reports.countP (Event.isOfFile disk) = if point.isSkip then 1 else 0 := by
  cases point with
  | names path location listing => rfl
  | entry path relative location name verdict =>
      obtain ⟨names, hMeets, rfl, rfl, rfl, hLook⟩ := mem_itinerary_entry_iff.mp hMem
      have hFile := hMeets.isFile_look_iff hRoot
      have hFolder := hMeets.isLeftFolder_look_iff hRoot
      rw [hLook, Path.descend_concat] at hFile hFolder
      cases verdict with
      | ignoredFile =>
          have hHere := (hFile.mp rfl).1
          simp [Waypoint.reports, Waypoint.said, Verdict.said, Notice.events, Notice.event?,
            Waypoint.isSkip, Verdict.isSkip, Event.isOfFile, hHere]
      | linkedFolder | ignoredFolder =>
          have hHere := (hFolder.mp rfl).1
          simp [Waypoint.reports, Waypoint.said, Verdict.said, Notice.events, Notice.event?,
            Waypoint.isSkip, Verdict.isSkip, Event.isOfFile, Disk.hasFile, hHere]
      | _ => rfl

theorem countP_flatMap_reports (hRoot : disk.enter root.address = .ok (base, links))
    (hPoints : points ⊆ itinerary plan disk links (disk.depth + 1) root ⟨""⟩ base) :
    (points.flatMap Waypoint.reports).countP (Event.isOfFile disk) =
      points.countP Waypoint.isSkip := by
  induction points with
  | nil => rfl
  | cons point points ih =>
      obtain ⟨hPoint, hRest⟩ := List.cons_subset.mp hPoints
      rw [List.flatMap_cons, List.countP_append, countP_reports hRoot hPoint, ih hRest,
        List.countP_cons, Nat.add_comm]

/-- The counted entries of an itinerary are those of the folders that are entered. -/
theorem mem_shown_isFile_iff (hRoot : disk.enter root.address = .ok (base, links)) {path : Path} :
    path ∈ ((itinerary plan disk links (disk.depth + 1) root ⟨""⟩ base).filter
        Waypoint.isFile).filterMap Waypoint.shown? ↔
      ∃ names name, path = root.descend (names ++ [name]) ∧
        Meets plan.filter disk base names name ∧ disk.hasFile path.address = true ∧
        ∀ suffix ∈ plan.suffix?, ∃ stem, stem ≠ "" ∧ name.text = stem ++ suffix := by
  constructor
  · intro hMem
    obtain ⟨point, hPoint, hShown⟩ := List.mem_filterMap.mp hMem
    obtain ⟨hPoint, hIsFile⟩ := List.mem_filter.mp hPoint
    cases point with
    | names path location listing => cases hShown
    | entry path relative location name verdict =>
        cases hShown
        obtain ⟨names, hMeets, rfl, rfl, rfl, rfl⟩ := mem_itinerary_entry_iff.mp hPoint
        rw [← Path.descend_concat]
        exact ⟨names, name, rfl, hMeets, (hMeets.isFile_look_iff hRoot).mp hIsFile⟩
  · rintro ⟨names, name, rfl, hMeets, hFile⟩
    refine List.mem_filterMap.mpr ⟨_, List.mem_filter.mpr ⟨hMeets.mem_itinerary links root,
      (hMeets.isFile_look_iff hRoot).mpr hFile⟩, ?_⟩
    rw [Path.descend_concat]
    rfl

theorem isSome_passed?_of_mem_reports {point : Waypoint} {event : Event}
    (hMem : event ∈ point.reports) : event.passed?.isSome = true := by
  cases point with
  | names path location listing => cases hMem
  | entry path relative location name verdict =>
      cases verdict with
      | linkedFolder | ignoredFolder | ignoredFile | tooLarge | binary =>
          rw [List.mem_singleton.mp hMem]
          rfl
      | _ => cases hMem

/-- A path is reported as ignored for the sake of a folder exactly if the folder is met, and is
ignored or behind a link. -/
theorem ignored_mem_reports_iff (hRoot : disk.enter root.address = .ok (base, links))
    {path : Path} :
    (.ignored path ∈ (itinerary plan disk links (disk.depth + 1) root ⟨""⟩ base).flatMap
        Waypoint.reports ∧ disk.hasFile path.address = false) ↔
      ∃ names name, path = root.descend (names ++ [name]) ∧
        Meets plan.filter disk base names name ∧ disk.node path.address = .ok .folder ∧
        ((∃ target, disk.get? (base ++ names ++ [name]) = some (.link target)) ∨
          disk.get? (base ++ names ++ [name]) = some .folder ∧
            plan.filter.isIgnored (Path.descend ⟨""⟩ (names ++ [name])) = true) := by
  constructor
  · rintro ⟨hReported, hNoFile⟩
    obtain ⟨point, hMem, hHere⟩ := List.mem_flatMap.mp hReported
    cases point with
    | names path location listing => cases hHere
    | entry path relative location name verdict =>
        obtain ⟨names, hMeets, rfl, rfl, rfl, hLook⟩ := mem_itinerary_entry_iff.mp hMem
        have hFile := hMeets.isFile_look_iff hRoot
        have hFolder := hMeets.isLeftFolder_look_iff hRoot
        rw [hLook] at hFile hFolder
        cases verdict with
        | linkedFolder | ignoredFolder =>
            obtain rfl := Event.ignored.inj (List.mem_singleton.mp hHere)
            rw [← Path.descend_concat]
            exact ⟨names, name, rfl, hMeets, hFolder.mp rfl⟩
        | ignoredFile =>
            obtain rfl := Event.ignored.inj (List.mem_singleton.mp hHere)
            rw [← Path.descend_concat, (hFile.mp rfl).1] at hNoFile
            cases hNoFile
        | tooLarge size limit => cases List.mem_singleton.mp hHere
        | binary => cases List.mem_singleton.mp hHere
        | _ => cases hHere
  · rintro ⟨names, name, rfl, hMeets, hNode, hWhy⟩
    have hLeft := (hMeets.isLeftFolder_look_iff hRoot).mpr ⟨hNode, hWhy⟩
    refine ⟨List.mem_flatMap.mpr ⟨_, hMeets.mem_itinerary links root, ?_⟩, ?_⟩
    · rw [Path.descend_concat]
      generalize plan.look disk links (root.descend names) (Path.descend ⟨""⟩ names)
        (base ++ names) name = verdict at hLeft ⊢
      cases verdict with
      | linkedFolder | ignoredFolder => exact List.mem_singleton_self _
      | _ => cases hLeft
    · simp [Disk.hasFile, hNode]

end Points

section Proceeding

variable {β : Type} {visit : Visited → Progress β → Result β} {links : Nat}

/-- A walk comes from `before` to `after` with visits to these files and with these reports of its
own. What it puts on record between visits is its own, and a visit begins with what came before. -/
inductive Proceeds (visit : Visited → Progress β → Result β) :
    List Visited → List Event → Progress β → Progress β → Prop
  | done {progress : Progress β} : Proceeds visit [] [] progress progress
  | tells {files : List Visited} {own : List Event} {before after : Progress β} (said : List Notice)
      (skipped : Nat)
      (hRest : Proceeds visit files own
        { before with notices := before.notices ++ said, skipped := skipped } after) :
      Proceeds visit files (Notice.events said ++ own) before after
  | visits {file : Visited} {files : List Visited} {own : List Event}
      {before next after : Progress β}
      (hVisit : visit file { before with visited := before.visited + 1 } = .ok next)
      (hRest : Proceeds visit files own next after) :
      Proceeds visit (file :: files) own before after

/-- A visit that leaves the disk and the counts of the walk as they are. -/
structure Steady (before after : Progress β) : Prop where
  disk_eq : after.disk = before.disk
  visited_eq : after.visited = before.visited
  skipped_eq : after.skipped = before.skipped

theorem Proceeds.say (level : Level) (text : String) (progress : Progress β) :
    Proceeds visit [] [] progress (progress.say level text) := by
  show Proceeds visit [] (Notice.events [.line level text] ++ []) progress (progress.say level text)
  exact .tells _ progress.skipped .done

theorem Proceeds.completed {files : List Visited} {own : List Event} {before after : Progress β}
    (root : Path) (hProceeds : Proceeds visit files own before after) :
    Proceeds visit files own before (completed root after) := by
  induction hProceeds with
  | done => exact .say _ _ _
  | tells said skipped hRest ih => exact .tells said skipped ih
  | visits hVisit hRest ih => exact .visits hVisit ih

/-- Reports that no visit makes are all the walk's own. -/
theorem Proceeds.events_eq {files : List Visited} {own : List Event} {before after : Progress β}
    (keep : Event → Bool) (hProceeds : Proceeds visit files own before after)
    (hVisit : ∀ file ∈ files, ∀ now next, visit file now = .ok next →
      (Notice.events next.notices).filter keep = (Notice.events now.notices).filter keep) :
    (Notice.events after.notices).filter keep =
      (Notice.events before.notices).filter keep ++ own.filter keep := by
  induction hProceeds with
  | done => exact (List.append_nil _).symm
  | tells said skipped hRest ih =>
      rw [ih hVisit]
      simp only [Notice.events, List.filterMap_append, List.filter_append, List.append_assoc]
  | visits hHere hRest ih =>
      obtain ⟨hFile, hFiles⟩ := List.forall_mem_cons.mp hVisit
      rw [ih hFiles, hFile _ _ hHere]

/-- Waypoints are passed with the visits and the reports that there are to make at them. -/
theorem proceeds_foldlM {points : List Waypoint} {progress : Progress β}
    (hVisit : ∀ file ∈ points.filterMap (Waypoint.visited? links), ∀ now : Progress β,
      now.disk = progress.disk → ∃ next, visit file now = .ok next ∧ Steady now next) :
    ∃ after, points.foldlM (m := Run β) (Waypoint.step visit links) progress = .ok after ∧
      Proceeds visit (points.filterMap (Waypoint.visited? links))
        (points.flatMap Waypoint.reports) progress after ∧
      after.visited = progress.visited + (points.filterMap (Waypoint.visited? links)).length ∧
      after.skipped = progress.skipped + points.countP Waypoint.isSkip := by
  induction points generalizing progress with
  | nil => exact ⟨progress, rfl, .done, rfl, rfl⟩
  | cons point points ih =>
      rw [List.foldlM_cons]
      cases hVisited : point.visited? links with
      | none =>
          rw [List.filterMap_cons_none hVisited] at hVisit ⊢
          obtain ⟨after, hRun, hProceeds, hCalls, hSkips⟩ := @ih
            { progress with
              notices := progress.notices ++ point.said
              skipped := progress.skipped + if point.isSkip then 1 else 0 } hVisit
          refine ⟨after, ?_, .tells point.said _ hProceeds, hCalls, ?_⟩
          · rw [step_eq_of_visited?_eq_none visit links progress hVisited]
            exact hRun
          · rw [hSkips, List.countP_cons, Nat.add_assoc, Nat.add_comm (points.countP _)]
      | some file =>
          rw [List.filterMap_cons_some hVisited] at hVisit ⊢
          obtain ⟨hFile, hFiles⟩ := List.forall_mem_cons.mp hVisit
          obtain ⟨next, hNext, hSteady⟩ :=
            hFile { progress with visited := progress.visited + 1 } rfl
          obtain ⟨after, hRun, hProceeds, hCalls, hSkips⟩ := @ih next
            fun other hMem now hDisk => hFiles other hMem now (hDisk.trans hSteady.disk_eq)
          obtain ⟨path, relative, rfl, -⟩ := Waypoint.eq_entry_of_visited? hVisited
          refine ⟨after, ?_, .visits hNext hProceeds, ?_, ?_⟩
          · rw [step_of_visited? hVisited, hNext]
            exact hRun
          · rw [hCalls, hSteady.visited_eq, List.length_cons, Nat.add_assoc, Nat.add_comm 1]
          · rw [hSkips, hSteady.skipped_eq]
            rfl

end Proceeding

/-- A walk whose visits all succeed and leave the disk alone comes to the end. It counts a visit for
each call, and as skipped each file that it reports, and these are the files in the folders it
enters that no suffix keeps out. No path is both visited and reported, or twice one of them. What
else is reported as ignored are the folders behind links, and the real ones that are ignored. Visits
may put on record what they like. -/
theorem run_accounts_for_every_entry (plan : Plan) {disk : Disk} {root : Path} {base : Location}
    {links : Nat} {β : Type} {visit : Visited → Progress β → Result β} (notices : List Notice)
    (start : β) (hRoot : disk.enter root.address = .ok (base, links))
    (hVisit : ∀ file ∈ visits plan disk root, ∀ now : Progress β, now.disk = disk →
      ∃ next, visit file now = .ok next ∧ Steady now next) :
    let files := visits plan disk root
    let isOwn (event : Event) : Bool := event.passed?.isSome
    ∃ after own,
      run plan root visit ⟨disk, notices, 0, 0, start⟩ = .ok after ∧
      Proceeds visit files own ⟨disk, notices, 0, 0, start⟩ after ∧
      after.visited = files.length ∧
      after.skipped = own.countP (Event.isOfFile disk) ∧
      (∃ entries : List Path, entries.Nodup ∧ after.visited + after.skipped = entries.length ∧
        ∀ path, path ∈ entries ↔ ∃ names name, path = root.descend (names ++ [name]) ∧
          Meets plan.filter disk base names name ∧ disk.hasFile path.address = true ∧
          ∀ suffix ∈ plan.suffix?, ∃ stem, stem ≠ "" ∧ name.text = stem ++ suffix) ∧
      (files.map (fun file => file.place.path) ++ own.filterMap Event.passed?).Nodup ∧
      (∀ path, (.ignored path ∈ own ∧ disk.hasFile path.address = false) ↔
        ∃ names name, path = root.descend (names ++ [name]) ∧
          Meets plan.filter disk base names name ∧ disk.node path.address = .ok .folder ∧
          ((∃ target, disk.get? (base ++ names ++ [name]) = some (.link target)) ∨
            disk.get? (base ++ names ++ [name]) = some .folder ∧
              plan.filter.isIgnored (Path.descend ⟨""⟩ (names ++ [name])) = true)) ∧
      ((∀ file ∈ files, ∀ now next, visit file now = .ok next →
          (Notice.events next.notices).filter isOwn = (Notice.events now.notices).filter isOwn) →
        (Notice.events after.notices).filter isOwn =
          (Notice.events notices).filter isOwn ++ own) := by
  intro files isOwn
  let points := itinerary plan disk links (disk.depth + 1) root ⟨""⟩ base
  have hFiles : files = points.filterMap (Waypoint.visited? links) := by
    simp only [files, visits, hRoot, points]
  have hVisits : ∀ file ∈ points.filterMap (Waypoint.visited? links), ∀ now : Progress β,
      now.disk = disk → ∃ next, visit file now = .ok next ∧ Steady now next := hFiles ▸ hVisit
  have hUndisturbed : Undisturbed plan visit links (· = disk) points := by
    refine undisturbed_of_keeps fun file hMem now after hDisk hAfter => ?_
    obtain ⟨next, hNext, hSteady⟩ := hVisits file hMem now hDisk
    obtain rfl := Except.ok.inj (hNext.symm.trans hAfter)
    exact hSteady.disk_eq.trans hDisk
  obtain ⟨last, hRun, hProceeds, hCalls, hSkips⟩ := @proceeds_foldlM β visit links points
    ⟨disk, notices, 0, 0, start⟩ hVisits
  rw [Nat.zero_add] at hCalls hSkips
  have hSkipped :
      last.skipped = (points.flatMap Waypoint.reports).countP (Event.isOfFile disk) := by
    rw [hSkips, countP_flatMap_reports hRoot (List.Subset.refl _)]
  have hNodup : (points.filterMap Waypoint.shown?).Nodup := nodup_shown
  have hOwn : (points.flatMap Waypoint.reports).filter isOwn = points.flatMap Waypoint.reports := by
    refine List.filter_eq_self.mpr fun event hMem => ?_
    obtain ⟨point, -, hHere⟩ := List.mem_flatMap.mp hMem
    exact isSome_passed?_of_mem_reports hHere
  refine ⟨completed root last, points.flatMap Waypoint.reports, ?_,
    hFiles ▸ hProceeds.completed root, hFiles ▸ hCalls, hSkipped,
    ⟨(points.filter Waypoint.isFile).filterMap Waypoint.shown?, ?_, ?_,
      fun path => mem_shown_isFile_iff hRoot⟩, ?_, fun path => ignored_mem_reports_iff hRoot, ?_⟩
  · refine (run_eq rfl ?_ hRoot hUndisturbed).trans ?_
    · rfl
    · rw [hRun]
      rfl
  · exact hNodup.sublist (List.filter_sublist.filterMap _)
  · rw [← length_visited_add_countP_isSkip links points, ← hCalls, ← hSkips]
    rfl
  · obtain ⟨shown, hPerm, hSublist⟩ := paths_subperm links points
    rw [hFiles]
    exact hPerm.nodup_iff.mp (hNodup.sublist hSublist)
  · intro hQuiet
    have hEvents := (hProceeds.completed root).events_eq isOwn (hFiles ▸ hQuiet)
    rw [hOwn] at hEvents
    exact hEvents

/-- Of two links to a file one is visited and the other one is ignored, and of two ignored folders
one is behind a link. A dangling link, a file without the suffix and a folder that is always skipped
leave no trace in the accounts. -/
theorem run_accounts_for_linked_entries :
    let inside (name : String) (proper : Name.isProper name = true) : Location :=
      [⟨"r", by decide⟩, ⟨name, proper⟩]
    let deeper (name : String) (proper : Name.isProper name = true) : Location :=
      inside name proper ++ [⟨"x.tpl", by decide⟩]
    let file (text : String) : Node := .file (Text.Utf8.encode text)
    let disk := [(inside "a.tpl" (by decide), file "1"),
      (inside "b.tpl" (by decide), .link ⟨"/r/a.tpl"⟩), (inside "c.tpl" (by decide), .file [0, 1]),
      (inside "docs.tpl" (by decide), .link ⟨"a.tpl"⟩),
      (inside "e.tpl" (by decide), file "too large"), (inside "f" (by decide), file "1"),
      (inside "g.tpl" (by decide), .link ⟨"nowhere"⟩),
      (inside "h" (by decide), .link ⟨"/r/Docs"⟩), (inside "Docs" (by decide), .folder),
      (deeper "Docs" (by decide), file "1"), (inside "dist" (by decide), .folder),
      (deeper "dist" (by decide), file "1"), (inside "sub" (by decide), .folder),
      (deeper "sub" (by decide), file "1")].foldl
        (fun disk (location, node) => disk.put location node)
        (Disk.empty.put [⟨"r", by decide⟩] .folder)
    let plan : Plan := ⟨.ofPatterns 5 ["docs"], some ".tpl"⟩
    let root : Path := ⟨"r/"⟩
    let visit (file : Visited) (progress : Progress Nat) : Result Nat :=
      .ok { progress.report (.replaced file.place.path progress.gathered) with
        gathered := progress.gathered + 1 }
    let files := visits plan disk root
    let start : Progress Nat := ⟨disk, [], 0, 0, 0⟩
    let passed : List Event := [.ignored ⟨"r/Docs"⟩, .binarySkipped ⟨"r/c.tpl"⟩,
      .ignored ⟨"r/docs.tpl"⟩, .sizeExceeded ⟨"r/e.tpl"⟩ 9 5, .ignored ⟨"r/h"⟩]
    disk.enter root.address = .ok ([⟨"r", by decide⟩], 40) ∧
    (∀ file ∈ files, ∀ now : Progress Nat, now.disk = disk →
      ∃ next, visit file now = .ok next ∧ Steady now next) ∧
    files.map (fun file => file.place.path.text) = ["r/a.tpl", "r/b.tpl", "r/sub/x.tpl"] ∧
    ∃ after, run plan root visit start = .ok after ∧ Proceeds visit files passed start after ∧
      after.visited = 3 ∧ after.skipped = 3 := by
  intro inside deeper file disk plan root visit files start passed
  have hRoot : disk.enter root.address = .ok ([⟨"r", by decide⟩], 40) := by decide +kernel
  have hVisit : ∀ file ∈ files, ∀ now : Progress Nat, now.disk = disk →
      ∃ next, visit file now = .ok next ∧ Steady now next :=
    fun file _ now _ => ⟨_, rfl, rfl, rfl, rfl⟩
  obtain ⟨after, own, hRun, hProceeds, hCalls, hSkips, -, -, -, hRecord⟩ :=
    run_accounts_for_every_entry plan [] 0 hRoot hVisit
  have hRecorded := hRecord fun file _ now next hNext => by
    cases hNext
    simp [Progress.report, Notice.events, Notice.event?, Event.passed?]
  have hEvents : (run plan root visit start).toOption.map (fun after =>
      (Notice.events after.notices).filter fun event => event.passed?.isSome) = some passed := by
    decide +kernel
  rw [hRun] at hEvents
  obtain rfl : own = passed := hRecorded.symm.trans (Option.some.inj hEvents)
  have hPaths : files.map (fun file => file.place.path.text) =
      ["r/a.tpl", "r/b.tpl", "r/sub/x.tpl"] := by decide +kernel
  have hLength := congrArg List.length hPaths
  rw [List.length_map] at hLength
  refine ⟨hRoot, hVisit, hPaths, after, hRun, hProceeds, hCalls.trans hLength, ?_⟩
  rw [hSkips]
  decide +kernel

end Walk

end Stencil
