import Stencil.Proofs.Census
import Stencil.Proofs.Engine.Replacement
import Stencil.Proofs.Walk.Calls
import Stencil.Proofs.Walk.Invariant
import Stencil.Proofs.Walk.Record

/-! What a count of placeholders reports: the keys of all spans that a scan of the visited files
comes to. -/

namespace Stencil.Engine

open Walk (Progress Visited)

/-- The usable keys of a content, in order. -/
def keys (engine : Engine) (content : Bytes) : List String :=
  Survey.usable (Survey.keys engine.config.opening engine.config.closing content)

/-- What is said of a file that is looked through. -/
def surveyTold (engine : Engine) (file : Visited) : List Notice :=
  (Survey.reports file.place.path
    (Survey.keys engine.config.opening engine.config.closing file.content)).map .report

theorem surveyFile_eq (engine : Engine) (file : Visited) (progress : Progress Census) :
    engine.surveyFile file progress = .ok
      { progress with
        notices := progress.notices ++ engine.surveyTold file
        gathered := progress.gathered.recordAll (engine.keys file.content) } :=
  rfl

theorem tells_surveyFile (engine : Engine) : Walk.Tells engine.surveyFile engine.surveyTold
    fun census file => census.recordAll (engine.keys file.content) := by
  intro file progress after hVisit
  rw [surveyFile_eq] at hVisit
  cases hVisit
  rfl

theorem keepsDisk_surveyFile (engine : Engine) : Walk.KeepsDisk engine.surveyFile := by
  intro file progress after hVisit
  cases hVisit
  rfl

/-- Which files a count looks through. -/
def analysisPlan (engine : Engine) (onlyTemplates : Bool) : Walk.Plan :=
  ⟨.ofPatterns engine.sizeLimit engine.config.ignorePatterns,
    if onlyTemplates then some engine.config.suffix else none⟩

/-- A count comes to the end on any disk, and records the usable keys of the files it visits. -/
theorem result_analyze_of_enter (engine : Engine) {disk : Disk} {root : Path} {base : Location}
    {links : Nat} (hRoot : disk.enter root.address = .ok (base, links)) (onlyTemplates : Bool) :
    (engine.analyze disk root onlyTemplates).result = .ok (Census.empty.recordAll
      ((Walk.visits (engine.analysisPlan onlyTemplates) disk root).flatMap
        fun file => engine.keys file.content)) := by
  let start : Progress Census :=
    ⟨disk, [.line .info ("Starting analysis: " ++ Text.quoted root.text)], 0, 0, .empty⟩
  have hStart : start.disk.enter root.address = .ok (base, links) := hRoot
  have hDispatch : Walk.Dispatches engine.surveyFile
      (Walk.visits (engine.analysisPlan onlyTemplates) disk root) start
      (Walk.run (engine.analysisPlan onlyTemplates) root engine.surveyFile start) :=
    Walk.dispatches_run_of_keepsDisk engine.keepsDisk_surveyFile hStart
  obtain ⟨after, hRun⟩ := hDispatch.ok_of_succeeds fun file progress =>
    ⟨_, engine.surveyFile_eq file progress⟩
  obtain ⟨last, hLast, rfl⟩ := Walk.recorded_run engine.tells_surveyFile (by rfl)
    hStart (Walk.undisturbed_of_keepsDisk engine.keepsDisk_surveyFile disk _) hRun
  have hGathered : last.gathered = Census.empty.recordAll
      ((Walk.visits (engine.analysisPlan onlyTemplates) disk root).flatMap
        fun file => engine.keys file.content) := by
    rw [hLast.gathered_eq, Walk.visits, hRoot, Census.recordAll, List.foldl_flatMap]
    rfl
  rw [← hGathered]
  simp only [analyze, pass]
  split
  · next hStopped => cases hStopped.symm.trans hRun
  · next after hAfter =>
      obtain rfl := Except.ok.inj (hAfter.symm.trans hRun)
      rfl

/-- A count leaves every disk as it is. -/
theorem disk_analyze (engine : Engine) (disk : Disk) (root : Path) (onlyTemplates : Bool) :
    (engine.analyze disk root onlyTemplates).disk = disk := by
  have hVisit (file : Visited) (progress : Progress Census) :
      Walk.Keeps (· = progress.disk) (engine.surveyFile file progress) := rfl
  exact disk_pass Progress.gathered _ (Walk.keeps_run_of_still root hVisit
    ⟨disk, [.line .info ("Starting analysis: " ++ Text.quoted root.text)], 0, 0, .empty⟩)

theorem careful_surveyFile (engine : Engine) : Walk.Careful engine.surveyFile := by
  intro file progress after _ hFree _ hVisit
  obtain rfl := Except.ok.inj hVisit
  exact .refl hFree

theorem ends_analyze (engine : Engine) (plan : Walk.Plan) {disk : Disk} {root : Path}
    (hFree : disk.LinkFree) (hRoot : disk.hasFolder root.address = true) (notices : List Notice) :
    Walk.Ends
      (fun after => after.disk = disk ∧ after.gathered = Census.empty.recordAll
        ((Walk.visits plan disk root).flatMap fun file => engine.keys file.content))
      (fun _ => False)
      (Walk.run plan root engine.surveyFile ⟨disk, notices, 0, 0, .empty⟩) := by
  refine Walk.ends_run
    (fun todo after _ census => after = disk ∧
      census.recordAll (todo.flatMap fun file => engine.keys file.content) =
        Census.empty.recordAll
          ((Walk.visits plan disk root).flatMap fun file => engine.keys file.content))
    _ engine.careful_surveyFile ?_ ⟨disk, notices, 0, 0, .empty⟩ hFree hRoot ⟨rfl, rfl⟩
  rintro file todo progress - - - ⟨hDisk, hCensus⟩
  rw [List.flatMap_cons, Census.recordAll, List.foldl_append] at hCensus
  exact ⟨hDisk, hCensus⟩

/-- A count on a disk without links comes to the end, and records the usable keys of all files. -/
theorem result_analyze (engine : Engine) {disk : Disk} {root : Path} (hFree : disk.LinkFree)
    (hRoot : disk.hasFolder root.address = true) :
    (engine.analyze disk root false).result = .ok (Census.empty.recordAll
      ((Walk.visits ⟨.ofPatterns engine.sizeLimit engine.config.ignorePatterns, none⟩ disk
        root).flatMap fun file => engine.keys file.content)) := by
  have hEnds := engine.ends_analyze
    ⟨.ofPatterns engine.sizeLimit engine.config.ignorePatterns, none⟩ hFree hRoot
    [.line .info ("Starting analysis: " ++ Text.quoted root.text)]
  simp only [analyze, pass, Bool.false_eq_true, if_false]
  split
  · next hRun =>
      rw [hRun] at hEnds
      exact hEnds.elim
  · next after hRun =>
      rw [hRun] at hEnds
      exact congrArg Except.ok hEnds.2

/-- So it leaves the disk as it is, and reports the keys of the scanned spans. -/
theorem analyze_ok (engine : Engine) {disk : Disk} {root : Path} (hFree : disk.LinkFree)
    (hRoot : disk.hasFolder root.address = true) :
    ∃ census, (engine.analyze disk root false).result = .ok census ∧
      (engine.analyze disk root false).disk = disk ∧
      ∀ key, key ∈ census.keys ↔
        ∃ file ∈ Walk.visits ⟨.ofPatterns engine.sizeLimit engine.config.ignorePatterns, none⟩ disk
          root, key ∈ engine.keys file.content := by
  refine ⟨_, engine.result_analyze hFree hRoot, engine.disk_analyze disk root false, fun key => ?_⟩
  rw [Census.mem_keys_recordAll]
  simp [Census.empty, Census.keys]

end Stencil.Engine
