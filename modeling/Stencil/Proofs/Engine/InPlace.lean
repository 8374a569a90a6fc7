import Stencil.Proofs.Engine.Replacement
import Stencil.Proofs.Substitution.Literal
import Stencil.Proofs.Walk.Eligible

/-! Putting values in place on a disk without links. Files are written to where they were found, so
no location comes or goes, and no file is found other than it was. What a pass reports, what it sums
up and what it does to the disk are all told by one list, that of the files in which something was
replaced. -/

namespace Stencil

/-- The file and the count that a report of values put in place tells of. -/
def Event.replaced? : Event → Option (Path × Nat)
  | .replaced path count => some (path, count)
  | _ => none

/-- The files that a record tells of values put in place in. -/
def Notice.replaced (notices : List Notice) : List (Path × Nat) :=
  (Notice.events notices).filterMap Event.replaced?

namespace Notice

theorem replaced_append (notices more : List Notice) :
    replaced (notices ++ more) = replaced notices ++ replaced more := by
  simp [replaced, events]

/-- What a walk records by itself tells of no value put in place. -/
theorem replaced_of_isOwn {notices : List Notice}
    (hOwn : ∀ notice ∈ notices, Walk.IsOwn notice = true) : replaced notices = [] := by
  induction notices with
  | nil => rfl
  | cons notice notices ih =>
      have hNotice : replaced [notice] = [] := by
        cases notice with
        | line level text => rfl
        | report event =>
            cases event with
            | replaced path count => cases hOwn _ List.mem_cons_self
            | _ => rfl
      have hRest := ih fun other hMem => hOwn other (List.mem_cons_of_mem _ hMem)
      rw [← List.singleton_append, replaced_append, hNotice, hRest, List.append_nil]

end Notice

namespace Engine

open Substitution
open Walk (Progress Visited)

variable {engine : Engine} {values : Values}

theorem replaced_faultReports (path : Path) (result : Substituted) :
    Notice.replaced (faultReports path result) = [] := by
  rw [Notice.replaced, Notice.events, faultReports, List.filterMap_map]
  simp [Notice.event?, Survey.tokenError, Event.replaced?, Function.comp_def]

/-- The content that a pass leaves a file with. -/
def rewritten (engine : Engine) (values : Values) (file : Visited) : Bytes :=
  if 0 < (engine.substitute values file.content).count then
    (engine.substitute values file.content).content
  else file.content

/-- The files in which something is replaced, as they are shown, and how much in each. -/
def replacedIn (engine : Engine) (values : Values) (files : List Visited) : List (Path × Nat) :=
  (files.filter fun file => 0 < (engine.substitute values file.content).count).map fun file =>
    (file.place.path, (engine.substitute values file.content).count)

theorem replacedIn_append (files more : List Visited) :
    engine.replacedIn values (files ++ more) =
      engine.replacedIn values files ++ engine.replacedIn values more := by
  simp [replacedIn]

/-- How much a pass did, told by the files in which it replaced something. -/
def summaryOf (changes : List (Path × Nat)) : Summary :=
  ⟨0, changes.length, (changes.map Prod.snd).sum⟩

theorem summaryOf_snoc (changes : List (Path × Nat)) (path : Path) (count : Nat) :
    summaryOf (changes ++ [(path, count)]) = (summaryOf changes).add count := by
  simp [summaryOf, Summary.add]

/-- Where nothing is replaced, nothing is changed. -/
theorem rewritten_eq (engine : Engine) (values : Values) (file : Visited) :
    engine.rewritten values file = (engine.substitute values file.content).content := by
  rw [rewritten]
  split
  · rfl
  · next hCount =>
      have hZero : (engine.substitute values file.content).count = 0 :=
        Nat.eq_zero_of_not_pos hCount
      rw [substitute] at hZero ⊢
      cases hStrategy : engine.config.strategy with
      | tokenized =>
          rw [hStrategy] at hZero
          exact (Tokenized.content_of_count_eq_zero hZero).symm
      | literal =>
          rw [hStrategy] at hZero
          exact (Literal.content_of_count_eq_zero hZero).symm

/-- What a disk has become once values were put in place in some of its files. -/
structure Rewritten (engine : Engine) (values : Values) (disk : Disk) (done : List Visited)
    (after : Disk) : Prop where
  content : ∀ file ∈ done,
    after.get? file.location = some (.file (engine.rewritten values file))
  kept : ∀ location, (∀ file ∈ done, file.location ≠ location) →
    after.get? location = disk.get? location
  keys_eq : after.nodes.keys = disk.nodes.keys
  workingFolder_eq : after.workingFolder = disk.workingFolder

namespace Rewritten

variable {disk middle after : Disk} {done rest : List Visited}

theorem nil (disk : Disk) : Rewritten engine values disk [] disk :=
  ⟨fun _ hMem => absurd hMem List.not_mem_nil, fun _ _ => rfl, rfl, rfl⟩

theorem append (hDone : Rewritten engine values disk done middle)
    (hRest : Rewritten engine values middle rest after)
    (hApart : ∀ file ∈ done, ∀ other ∈ rest, other.location ≠ file.location) :
    Rewritten engine values disk (done ++ rest) after := by
  refine ⟨?_, ?_, hRest.keys_eq.trans hDone.keys_eq,
    hRest.workingFolder_eq.trans hDone.workingFolder_eq⟩
  · intro file hMem
    rcases List.mem_append.mp hMem with hMem | hMem
    · rw [hRest.kept file.location (hApart file hMem)]
      exact hDone.content file hMem
    · exact hRest.content file hMem
  · intro location hElse
    rw [hRest.kept location fun file hMem => hElse file (List.mem_append_right _ hMem)]
    exact hDone.kept location fun file hMem => hElse file (List.mem_append_left _ hMem)

end Rewritten

/-- What a visit to one file comes to: on the disk, on record and in the summary. -/
structure Dealt (engine : Engine) (values : Values) (file : Visited)
    (before after : Progress Summary) : Prop where
  rewritten : Rewritten engine values before.disk [file] after.disk
  visited_eq : after.visited = before.visited
  replaced_eq : Notice.replaced after.notices =
    Notice.replaced before.notices ++ engine.replacedIn values [file]
  gathered_eq : before.gathered = summaryOf (Notice.replaced before.notices) →
    after.gathered = summaryOf (Notice.replaced after.notices)

section Visit

variable {file : Visited} (progress : Progress Summary)
  (hContent : progress.disk.get? file.location = some (.file file.content))

include hContent

theorem dealt_of_not_count_pos (hCount : ¬ 0 < (engine.substitute values file.content).count) :
    ∃ after, engine.replaceFile values file progress = .ok after ∧
      Dealt engine values file progress after := by
  have hChanged : (engine.substitute values file.content).isChanged = false :=
    decide_eq_false hCount
  have hNotices : Notice.replaced (progress.notices ++
        faultReports file.place.path (engine.substitute values file.content)) =
      Notice.replaced progress.notices := by
    rw [Notice.replaced_append, replaced_faultReports, List.append_nil]
  simp only [replaceFile, hChanged, Bool.not_false, if_true]
  refine ⟨_, rfl, ⟨?_, fun _ _ => rfl, rfl, rfl⟩, rfl, ?_, ?_⟩
  · intro other hOther
    rw [List.mem_singleton.mp hOther, rewritten, if_neg hCount]
    exact hContent
  · rw [hNotices]
    simp [replacedIn, hCount]
  · intro hGathered
    rw [hNotices]
    exact hGathered

theorem dealt_of_count_pos (hLive : engine.config.dryRun = false) (hFound : file.Found)
    (hFree : progress.disk.LinkFree)
    (hCount : 0 < (engine.substitute values file.content).count) :
    ∃ after, engine.replaceFile values file progress = .ok after ∧
      Dealt engine values file progress after := by
  have hChanged : (engine.substitute values file.content).isChanged = true :=
    decide_eq_true hCount
  have hWrite := write_found (engine.substitute values file.content).content hFound hFree hContent
  have hNotices : Notice.replaced ((progress.notices ++
        faultReports file.place.path (engine.substitute values file.content)) ++
        [.line .debug ("Updating contents of: " ++ Text.quoted file.place.path.text)] ++
        [.report (.replaced file.place.path (engine.substitute values file.content).count)]) =
      Notice.replaced progress.notices ++
        [(file.place.path, (engine.substitute values file.content).count)] := by
    simp only [Notice.replaced_append, replaced_faultReports, List.append_nil]
    simp [Notice.replaced, Notice.events, Notice.event?, Event.replaced?]
  have hMem : file.location ∈ progress.disk.nodes.keys :=
    Disk.mem_keys_of_get? (by simp [Visited.location]) (by simp [hContent])
  simp only [replaceFile, hChanged, hLive, Bool.not_true, Bool.false_eq_true, if_false,
    Progress.say, Progress.report, hWrite]
  refine ⟨_, rfl, ⟨?_, ?_, ?_, Disk.workingFolder_put _ _ _⟩, rfl, ?_, ?_⟩
  · intro other hOther
    rw [List.mem_singleton.mp hOther, rewritten, if_pos hCount]
    exact Disk.get?_put_self _ _ (by simp [Visited.location])
  · intro location hElse
    exact Disk.get?_put_of_ne _ _ (hElse file (List.mem_singleton_self file)).symm
  · exact Table.keys_insert_of_mem _ hMem
  · rw [hNotices]
    simp [replacedIn, hCount]
  · intro hGathered
    rw [hNotices, summaryOf_snoc, ← hGathered]

/-- A file that is as it was found is dealt with. -/
theorem exists_dealt (hLive : engine.config.dryRun = false) (hFound : file.Found)
    (hFree : progress.disk.LinkFree) :
    ∃ after, engine.replaceFile values file progress = .ok after ∧
      Dealt engine values file progress after := by
  by_cases hCount : 0 < (engine.substitute values file.content).count
  · exact dealt_of_count_pos progress hContent hLive hFound hFree hCount
  · exact dealt_of_not_count_pos progress hContent hCount

end Visit

section Pass

variable {disk : Disk} {root : Path}

/-- A pass on its way through its files. -/
structure Underway (engine : Engine) (values : Values) (disk : Disk) (root : Path)
    (done todo : List Visited) (progress : Progress Summary) : Prop where
  files_eq : engine.files values disk root = done ++ todo
  rewritten : Rewritten engine values disk done progress.disk
  visited_eq : progress.visited = done.length
  replaced_eq : Notice.replaced progress.notices = engine.replacedIn values done
  gathered_eq : progress.gathered = summaryOf (Notice.replaced progress.notices)

namespace Underway

variable {done todo : List Visited} {file : Visited} {progress after : Progress Summary}

theorem of_between (hUnderway : engine.Underway values disk root done todo progress)
    (hBetween : Walk.Between progress after) :
    engine.Underway values disk root done todo after := by
  obtain ⟨own, hNotices, hOwn⟩ := hBetween.notices_eq
  have hReplaced : Notice.replaced after.notices = Notice.replaced progress.notices := by
    rw [hNotices, Notice.replaced_append, Notice.replaced_of_isOwn hOwn, List.append_nil]
  refine ⟨hUnderway.files_eq, ?_, ?_, ?_, ?_⟩
  · rw [hBetween.disk_eq]
    exact hUnderway.rewritten
  · rw [hBetween.visited_eq]
    exact hUnderway.visited_eq
  · rw [hReplaced]
    exact hUnderway.replaced_eq
  · rw [hBetween.gathered_eq, hReplaced]
    exact hUnderway.gathered_eq

/-- No file has the location of a later one. -/
theorem apart (hUnderway : engine.Underway values disk root done (file :: todo) progress) :
    ∀ other ∈ done, file.location ≠ other.location := by
  have hNodup : ((engine.files values disk root).map Visited.location).Nodup :=
    Walk.nodup_location
  rw [hUnderway.files_eq, List.map_append, List.nodup_append] at hNodup
  intro other hMem
  exact (hNodup.2.2 _ (List.mem_map_of_mem hMem) _ (List.mem_map_of_mem List.mem_cons_self)).symm

/-- A pass takes the next file. -/
theorem next (hLive : engine.config.dryRun = false)
    (hUnderway : engine.Underway values disk root done (file :: todo) progress)
    (hFound : file.Found) (hFree : progress.disk.LinkFree)
    (hContent : progress.disk.get? file.location = some (.file file.content)) :
    ∃ after, engine.replaceFile values file
        { progress with visited := progress.visited + 1 } = .ok after ∧
      engine.Underway values disk root (done ++ [file]) todo after := by
  obtain ⟨after, hAfter, hDealt⟩ :=
    exists_dealt { progress with visited := progress.visited + 1 } hContent hLive hFound hFree
  refine ⟨after, hAfter, ?_, ?_, ?_, ?_, hDealt.gathered_eq hUnderway.gathered_eq⟩
  · rw [hUnderway.files_eq, List.append_cons]
  · refine hUnderway.rewritten.append hDealt.rewritten fun other hOther last hLast => ?_
    rw [List.mem_singleton.mp hLast]
    exact hUnderway.apart other hOther
  · rw [hDealt.visited_eq, List.length_append]
    exact congrArg (· + 1) hUnderway.visited_eq
  · rw [hDealt.replaced_eq, replacedIn_append, ← hUnderway.replaced_eq]

end Underway

/-- The walk of a pass goes through all its files. -/
theorem ends_replace_in_place (values : Values) (hLive : engine.config.dryRun = false)
    (hFree : disk.LinkFree) (hRoot : disk.hasFolder root.address = true)
    {notices : List Notice} (hNotices : Notice.replaced notices = []) :
    Walk.Ends
      (engine.Underway values disk root (engine.files values disk root) [])
      (fun _ => False)
      (Walk.run ⟨engine.filterFor values, none⟩ root (engine.replaceFile values)
        ⟨disk, notices, 0, 0, .zero⟩) := by
  have hStart : engine.Underway values disk root [] (engine.files values disk root)
      ⟨disk, notices, 0, 0, .zero⟩ := by
    refine ⟨rfl, .nil disk, rfl, hNotices, ?_⟩
    rw [hNotices]
    rfl
  have hEnds : Walk.Ends (fun after => ∃ done, engine.Underway values disk root done [] after)
      (fun _ => False)
      (Walk.run ⟨engine.filterFor values, none⟩ root (engine.replaceFile values)
        ⟨disk, notices, 0, 0, .zero⟩) := by
    refine Walk.ends_run_recorded
      (fun todo progress => ∃ done, engine.Underway values disk root done todo progress) _
      (engine.careful_replaceFile values) ?_ ?_ ⟨disk, notices, 0, 0, .zero⟩ hFree hRoot
      ⟨[], hStart⟩
    · rintro todo before after hBetween ⟨done, hUnderway⟩
      exact ⟨done, hUnderway.of_between hBetween⟩
    · rintro file todo progress hFound hNow hContent ⟨done, hUnderway⟩
      obtain ⟨after, hAfter, hNext⟩ := hUnderway.next hLive hFound hNow hContent
      rw [hAfter]
      exact ⟨done ++ [file], hNext⟩
  refine hEnds.mono ?_ fun _ => id
  rintro after ⟨done, hUnderway⟩
  have hDone : engine.files values disk root = done := by
    rw [hUnderway.files_eq, List.append_nil]
  rw [hDone]
  exact hUnderway

/-- How a pass ends: as its walk does, with one more line on record. -/
theorem exists_replace (values : Values) (hLive : engine.config.dryRun = false)
    (hFree : disk.LinkFree) (hRoot : disk.hasFolder root.address = true) :
    ∃ after closed,
      Walk.run ⟨engine.filterFor values, none⟩ root (engine.replaceFile values)
        ⟨disk, [.line .info ("Starting replacement: " ++ Text.quoted root.text)], 0, 0, .zero⟩ =
          .ok after ∧
      engine.Underway values disk root (engine.files values disk root) [] after ∧
      engine.replace disk root values =
        ⟨after.disk, after.notices ++ [.line .info closed], .ok (summarize after)⟩ := by
  have hOpened : Notice.replaced
      [.line .info ("Starting replacement: " ++ Text.quoted root.text)] = [] := rfl
  have hEnds := ends_replace_in_place values hLive hFree hRoot hOpened
  cases hRun : Walk.run ⟨engine.filterFor values, none⟩ root (engine.replaceFile values)
      ⟨disk, [.line .info ("Starting replacement: " ++ Text.quoted root.text)], 0, 0, .zero⟩ with
  | error stopped =>
      rw [hRun] at hEnds
      exact hEnds.elim
  | ok after =>
      rw [hRun] at hEnds
      have hReplace : ∃ closed, engine.replace disk root values =
          ⟨after.disk, after.notices ++ [.line .info closed], .ok (summarize after)⟩ := by
        rw [replace, pass, hRun]
        exact ⟨_, rfl⟩
      obtain ⟨closed, hReplace⟩ := hReplace
      exact ⟨after, closed, rfl, hEnds, hReplace⟩

theorem rewritten_replace (values : Values) (hLive : engine.config.dryRun = false)
    (hFree : disk.LinkFree) (hRoot : disk.hasFolder root.address = true) :
    Rewritten engine values disk (engine.files values disk root)
      (engine.replace disk root values).disk := by
  obtain ⟨after, closed, -, hUnderway, hReplace⟩ := exists_replace values hLive hFree hRoot
  rw [hReplace]
  exact hUnderway.rewritten

/-- Two passes in place leave the same tree exactly if they give each file the same content. -/
theorem sameTree_iff (hLive : engine.config.dryRun = false) (hFree : disk.LinkFree)
    (hRoot : disk.hasFolder root.address = true) {values values' : Values}
    (hPatterns : values.ignorePatterns = values'.ignorePatterns) :
    (∀ location, (engine.replace disk root values).disk.get? location =
        (engine.replace disk root values').disk.get? location) ↔
      ∀ file ∈ engine.files values disk root,
        (engine.substitute values file.content).content =
          (engine.substitute values' file.content).content := by
  have hFiles : engine.files values' disk root = engine.files values disk root := by
    rw [files, files, filterFor, filterFor, hPatterns]
  have hRewritten := rewritten_replace values hLive hFree hRoot
  have hRewritten' := rewritten_replace values' hLive hFree hRoot
  rw [hFiles] at hRewritten'
  constructor
  · intro hTree file hFile
    have hNode := hTree file.location
    rw [hRewritten.content file hFile, hRewritten'.content file hFile, rewritten_eq,
      rewritten_eq] at hNode
    exact Node.file.inj (Option.some.inj hNode)
  · intro hContents location
    by_cases hVisited : ∃ file ∈ engine.files values disk root, file.location = location
    · obtain ⟨file, hFile, rfl⟩ := hVisited
      rw [hRewritten.content file hFile, hRewritten'.content file hFile, rewritten_eq,
        rewritten_eq, hContents file hFile]
    · have hElse : ∀ file ∈ engine.files values disk root, file.location ≠ location :=
        fun file hFile hSame => hVisited ⟨file, hFile, hSame⟩
      rw [hRewritten.kept location hElse, hRewritten'.kept location hElse]

/-- Putting values in place on a disk without links always comes to the end. Each file ends with
what the values make of it as it was, and nothing else is changed. The summary and the reports tell
of the files in which something was replaced, each of them once. -/
theorem replace_in_place (values : Values) (hLive : engine.config.dryRun = false)
    (hFree : disk.LinkFree) (hRoot : disk.hasFolder root.address = true) :
    let files := engine.files values disk root
    let outcome := engine.replace disk root values
    let reports := Notice.replaced outcome.notices
    outcome.result = .ok ⟨files.length, reports.length, (reports.map Prod.snd).sum⟩ ∧
    reports = engine.replacedIn values files ∧ (reports.map Prod.fst).Nodup ∧
    outcome.disk.nodes.keys = disk.nodes.keys ∧
    (∀ file ∈ files, disk.get? file.location = some (.file file.content) ∧
      outcome.disk.get? file.location = some (.file (engine.rewritten values file))) ∧
    (∀ location, (∀ file ∈ files, file.location ≠ location) →
      outcome.disk.get? location = disk.get? location) ∧
    let start : Progress Summary :=
      ⟨disk, [.line .info ("Starting replacement: " ++ Text.quoted root.text)], 0, 0, .zero⟩
    ∃ after, Walk.run ⟨engine.filterFor values, none⟩ root (engine.replaceFile values) start =
        .ok after ∧
      Walk.Calls (engine.replaceFile values) files start after ∧ after.disk = outcome.disk := by
  intro files outcome reports
  obtain ⟨after, closed, hRun, hUnderway, hReplace⟩ := exists_replace values hLive hFree hRoot
  have hReports : reports = Notice.replaced after.notices := by
    simp only [reports, outcome, hReplace, Notice.replaced_append]
    exact List.append_nil _
  have hDisk : outcome.disk = after.disk := by
    simp only [outcome, hReplace]
  have hResult := Walk.dispatches_run_of_careful ⟨engine.filterFor values, none⟩
    ⟨disk, [.line .info ("Starting replacement: " ++ Text.quoted root.text)], 0, 0, .zero⟩
    (engine.careful_replaceFile values) hFree hRoot
  rw [hRun] at hResult
  rw [hReports, hDisk]
  refine ⟨?_, hUnderway.replaced_eq, ?_, hUnderway.rewritten.keys_eq, ?_,
    hUnderway.rewritten.kept, after, hRun, hResult.calls, rfl⟩
  · simp only [outcome, hReplace, summarize]
    rw [hUnderway.gathered_eq, hUnderway.visited_eq]
    rfl
  · rw [hUnderway.replaced_eq, replacedIn, List.map_map]
    exact Walk.nodup_path.sublist (List.filter_sublist.map _)
  · intro file hMem
    exact ⟨(Walk.content_of_mem_visits hFree hMem).1, hUnderway.rewritten.content file hMem⟩

/-- One file has nothing to be replaced in it, and one in which something would be is not
visited. -/
theorem replace_in_place_in_two_files :
    let name (text : String) (proper : Name.isProper text = true) : Name := ⟨text, proper⟩
    let folder := name "r" (by decide)
    let first : Location := [folder, name "a" (by decide)]
    let second : Location := [folder, name "s" (by decide), name "b" (by decide)]
    let skipped : Location := [folder, name "bin" (by decide), name "b" (by decide)]
    let disk := ((((((Disk.empty.put [folder] .folder).put [folder, name "s" (by decide)]
      .folder).put [folder, name "bin" (by decide)] .folder).put skipped
      (.file (Text.Utf8.encode "[[A]]"))).put second (.file (Text.Utf8.encode "[[A]] [["))).put
      [folder, name "c" (by decide)] (.file (Text.Utf8.encode "[[B]]"))).put first
      (.file (Text.Utf8.encode "[[A]][[A]]"))
    let engine : Engine := ⟨{}, 3145728, rfl, by decide, by decide, by decide⟩
    let values : Values := { assignments := [⟨"A", "x"⟩] }
    let files := engine.files values disk ⟨"r"⟩
    engine.config.dryRun = false ∧ disk.LinkFree ∧ disk.hasFolder (Path.address ⟨"r"⟩) = true ∧
    files.map (fun file => file.place.path.text) = ["r/a", "r/c", "r/s/b"] ∧
    Notice.replaced (engine.replace disk ⟨"r"⟩ values).notices =
      [(⟨"r/a"⟩, 2), (⟨"r/s/b"⟩, 1)] ∧
    (engine.replace disk ⟨"r"⟩ values).result = .ok ⟨3, 2, 3⟩ ∧
    (engine.replace disk ⟨"r"⟩ values).disk.nodes.keys = disk.nodes.keys ∧
    (engine.replace disk ⟨"r"⟩ values).disk.get? first =
      some (.file (Text.Utf8.encode "xx")) ∧
    (engine.replace disk ⟨"r"⟩ values).disk.get? skipped = disk.get? skipped := by
  intro name folder first second skipped disk engine values files
  have hFree : disk.LinkFree := by decide +kernel
  have hRoot : disk.hasFolder (Path.address ⟨"r"⟩) = true := by decide +kernel
  have hFiles : files.map (fun file => file.place.path.text) = ["r/a", "r/c", "r/s/b"] := by
    decide +kernel
  have hSkipped : ∀ file ∈ files, file.location ≠ skipped := by decide +kernel
  have hReports : Notice.replaced (engine.replace disk ⟨"r"⟩ values).notices =
      [(⟨"r/a"⟩, 2), (⟨"r/s/b"⟩, 1)] := by
    decide +kernel
  obtain ⟨hResult, -, -, hKeys, -, hKept, -⟩ :=
    replace_in_place values (rfl : engine.config.dryRun = false) hFree hRoot
  have hLength : files.length = 3 := by simpa using congrArg List.length hFiles
  refine ⟨rfl, hFree, hRoot, hFiles, hReports, ?_, hKeys, by decide +kernel,
    hKept skipped hSkipped⟩
  rw [hResult, hReports, hLength]
  rfl

end Pass

end Engine

end Stencil
