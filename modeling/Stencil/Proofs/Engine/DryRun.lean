import Stencil.Proofs.Engine.Telling
import Stencil.Proofs.Engine.TwoPasses

/-! What a dry run tells of a live one. Both walk along the same itinerary, so all that they find,
and all that the walk itself has to say of it, is the same. The live pass changes the disk under the
walk, but nothing that is still to be looked at. -/

namespace Stencil

namespace Engine

open Walk (Progress Visited Waypoint Tells)

variable {engine : Engine} {values : Values}

/-- The writes of a live pass, as its reports and the disk that it leaves tell of them. -/
structure Performed (disk : Disk) (writes : List Write) (live : Outcome Summary) : Prop where
  reported : (Notice.events live.notices).filterMap Event.written? =
    writes.map fun write => write.output.path
  before : ∀ write ∈ writes, disk.get? write.file.location = some (.file write.file.content)
  after : ∀ write ∈ writes, ∃ location, write.location? = some location ∧
    live.disk.get? location = some (.file write.content)
  once : (writes.map Write.location?).Nodup
  kept : ∀ location,
    (∀ write ∈ writes, write.file.location ≠ location ∧ write.location? ≠ some location) →
      live.disk.get? location = disk.get? location

/-- What a dry run tells of a live one that comes to the end. -/
structure Predicts (disk : Disk) (writes : List Write) (live dry : Outcome Summary) : Prop where
  result_eq : dry.result = live.result
  disk_eq : dry.disk = disk
  events_eq : (Notice.events dry.notices).filter (fun event => !event.isPreview) =
    Notice.events live.notices
  previews_eq : (Notice.events dry.notices).filter Event.isPreview = writes.map Write.preview

section Pass

variable {disk : Disk} {root : Path}

theorem exists_of_result {plan : Walk.Plan} {opened : String}
    {visit : Visited → Progress Summary → Walk.Result Summary} {closed : Summary → String}
    {summary : Summary}
    (hResult : (pass plan disk root opened .zero visit summarize closed).result = .ok summary) :
    ∃ folder links after, disk.enter root.address = .ok (folder, links) ∧
      Walk.run plan root visit ⟨disk, [.line .info opened], 0, 0, .zero⟩ = .ok after := by
  rw [pass] at hResult
  split at hResult
  · cases hResult
  · next after hRun =>
      rw [Walk.run] at hRun
      cases hRoot : disk.enter root.address with
      | error cause =>
          rw [hRoot] at hRun
          cases hRun
      | ok entered => exact ⟨entered.1, entered.2, after, rfl, hRun⟩

/-- A pass that comes to the end, by what its visitor tells. -/
theorem pass_of_run {plan : Walk.Plan} (opened : String) (closed : Summary → String)
    {visit : Visited → Progress Summary → Walk.Result Summary} {tell : Visited → List Notice}
    {gather : Summary → Visited → Summary} {Sound : Disk → Prop} {folder : Location} {links : Nat}
    {after : Progress Summary} (hTells : Tells visit tell gather)
    (hRoot : disk.enter root.address = .ok (folder, links))
    (hPoints : Walk.Undisturbed plan visit links Sound
      (Walk.itinerary plan disk links (disk.depth + 1) root ⟨""⟩ folder)) (hSound : Sound disk)
    (hRun : Walk.run plan root visit ⟨disk, [.line .info opened], 0, 0, .zero⟩ = .ok after) :
    let points := Walk.itinerary plan disk links (disk.depth + 1) root ⟨""⟩ folder
    let files := points.filterMap (Waypoint.visited? links)
    let outcome := pass plan disk root opened .zero visit summarize closed
    Notice.events outcome.notices = Notice.events (points.flatMap (Waypoint.told tell links)) ∧
      outcome.result = .ok { files.foldl gather .zero with visited := files.length } := by
  intro points files outcome
  obtain ⟨last, hRecorded, rfl⟩ := Walk.recorded_run hTells hSound hRoot hPoints hRun
  have hOutcome : outcome = ⟨last.disk,
      (Walk.completed root last).notices ++
        [.line .info (closed (summarize (Walk.completed root last)))],
      .ok (summarize (Walk.completed root last))⟩ := by
    simp only [outcome, pass, hRun]
    rfl
  rw [hOutcome]
  refine ⟨?_, ?_⟩
  · simp only [Walk.completed, Progress.say, hRecorded.notices_eq, Notice.events_append,
      Notice.events_line, List.nil_append, List.append_nil]
    rfl
  · simp only [summarize, Walk.completed, Progress.say, hRecorded.visited_eq,
      hRecorded.gathered_eq, Nat.zero_add]
    rfl

/-- A pass whose visits all go on and leave the disk alone leaves it alone, on any disk. -/
theorem disk_pass_of_still {plan : Walk.Plan}
    {visit : Visited → Progress Summary → Walk.Result Summary} (disk : Disk) (root : Path)
    (opened : String) (closed : Summary → String)
    (hVisit : ∀ file progress, ∃ after, visit file progress = .ok after ∧
      after.disk = progress.disk) :
    (pass plan disk root opened .zero visit summarize closed).disk = disk := by
  have hStill (file : Visited) (progress : Progress Summary) :
      Walk.Keeps (· = progress.disk) (visit file progress) := by
    obtain ⟨after, hAfter, hDisk⟩ := hVisit file progress
    rw [hAfter]
    exact hDisk
  exact disk_pass summarize closed
    (Walk.keeps_run_of_still root hStill ⟨disk, [.line .info opened], 0, 0, .zero⟩)

theorem disk_replace_dry (hDry : engine.config.dryRun = true) (disk : Disk) (root : Path)
    (values : Values) : (engine.replace disk root values).disk = disk :=
  disk_pass_of_still disk root _ _ (exists_replaceFile_dry values hDry)

theorem disk_materialize_dry (hDry : engine.config.dryRun = true) (disk : Disk) (root : Path)
    (values : Values) : (engine.materialize disk root values).disk = disk :=
  disk_pass_of_still disk root _ _ (exists_materializeFile_dry values hDry)

/-- Two walks along the same itinerary, of which one leaves out what the other writes. -/
theorem predicts_pass {plan : Walk.Plan} (opened : String) (closed : Summary → String)
    {visit visitDry : Visited → Progress Summary → Walk.Result Summary}
    {write? : Visited → Option Write} {tell tellDry : Visited → List Notice}
    {gather : Summary → Visited → Summary}
    (hTells : Tells visit tell gather) (hTellsDry : Tells visitDry tellDry gather)
    (hForetells : Foretells write? tell tellDry) (hCareful : Walk.Careful visit)
    (hDry : ∀ file progress, ∃ after, visitDry file progress = .ok after ∧
      after.disk = progress.disk)
    (hFree : disk.LinkFree) {summary : Summary}
    (hResult : (pass plan disk root opened .zero visit summarize closed).result = .ok summary) :
    let live := pass plan disk root opened .zero visit summarize closed
    let dry := pass plan disk root opened .zero visitDry summarize closed
    let writes := (Walk.visits plan disk root).filterMap write?
    Predicts disk writes live dry ∧
      (Notice.events live.notices).filterMap Event.written? =
        writes.map fun write => write.output.path := by
  intro live dry writes
  obtain ⟨folder, links, after, hRoot, hRun⟩ := exists_of_result hResult
  have hKeeps : Walk.KeepsDisk visitDry := by
    intro file progress next hNext
    obtain ⟨next', hNext', hDisk⟩ := hDry file progress
    rw [hNext'] at hNext
    exact Except.ok.inj hNext ▸ hDisk
  obtain ⟨afterDry, hRunDry⟩ : ∃ afterDry, Walk.run plan root visitDry
      ⟨disk, [.line .info opened], 0, 0, .zero⟩ = .ok afterDry := by
    refine (Walk.dispatches_run_of_keepsDisk hKeeps hRoot).ok_of_succeeds fun file progress => ?_
    obtain ⟨next, hNext, -⟩ := hDry file progress
    exact ⟨next, hNext⟩
  have hDisk : dry.disk = disk := disk_pass_of_still disk root opened closed hDry
  obtain ⟨hEvents, hSummary⟩ := pass_of_run opened closed hTells hRoot
    (Walk.undisturbed_of_careful hCareful Walk.pairwise_itinerary) hFree hRun
  obtain ⟨hEventsDry, hSummaryDry⟩ := pass_of_run opened closed hTellsDry hRoot
    (Walk.undisturbed_of_keepsDisk hKeeps disk _) rfl hRunDry
  obtain ⟨hSame, hPreviews, hWritten⟩ := hForetells.flatMap links
    (Walk.itinerary plan disk links (disk.depth + 1) root ⟨""⟩ folder)
  have hWrites : writes = ((Walk.itinerary plan disk links (disk.depth + 1) root ⟨""⟩
      folder).filterMap (Waypoint.visited? links)).filterMap write? := by
    simp only [writes, Walk.visits, hRoot]
  rw [← hWrites] at hPreviews hWritten
  rw [← hEventsDry] at hSame hPreviews
  rw [← hEvents] at hSame hWritten
  exact ⟨⟨hSummaryDry.trans hSummary.symm, hDisk, hSame, hPreviews⟩, hWritten⟩

/-- Different files are written to different locations. -/
theorem nodup_writes {files : List Visited} {write? : Visited → Option Write}
    (hApart : files.Pairwise fun first second => ∀ write ∈ write? first,
      ∀ write' ∈ write? second, write.location? ≠ write'.location?) :
    ((files.filterMap write?).map Write.location?).Nodup :=
  List.pairwise_map.mpr (List.pairwise_filterMap.mpr hApart)

theorem replaceWrite?_eq_some {file : Visited} {write : Write}
    (hWrite : engine.replaceWrite? values file = some write) :
    0 < (engine.substitute values file.content).count ∧
      write = ⟨file, file.place, (engine.substitute values file.content).content⟩ := by
  obtain ⟨hChanged, hSame⟩ := Option.ite_none_right_eq_some.mp hWrite
  exact ⟨of_decide_eq_true hChanged, (Option.some.inj hSame).symm⟩

theorem location?_of_found {file : Visited} (hFound : file.Found) (content : Bytes) :
    Write.location? ⟨file, file.place, content⟩ = some file.location := by
  rw [Write.location?, Address.entry?, hFound.steps_eq]
  rfl

theorem performed_replace (values : Values) (hLive : engine.config.dryRun = false)
    (hFree : disk.LinkFree) (hRoot : disk.hasFolder root.address = true)
    (hReported : (Notice.events (engine.replace disk root values).notices).filterMap
      Event.written? = ((engine.files values disk root).filterMap
        (engine.replaceWrite? values)).map fun write => write.output.path) :
    Performed disk ((engine.files values disk root).filterMap (engine.replaceWrite? values))
      (engine.replace disk root values) := by
  have hRewritten := rewritten_replace values hLive hFree hRoot
  have hFound : ∀ file ∈ engine.files values disk root, file.Found := fun file hMem =>
    Walk.found_of_mem_visits hMem
  refine ⟨hReported, ?_, ?_, ?_, ?_⟩
  · intro write hMem
    obtain ⟨file, hFile, hWrite⟩ := List.mem_filterMap.mp hMem
    obtain ⟨-, rfl⟩ := replaceWrite?_eq_some hWrite
    exact (Walk.content_of_mem_visits hFree hFile).1
  · intro write hMem
    obtain ⟨file, hFile, hWrite⟩ := List.mem_filterMap.mp hMem
    obtain ⟨hCount, rfl⟩ := replaceWrite?_eq_some hWrite
    refine ⟨file.location, location?_of_found (hFound file hFile) _, ?_⟩
    rw [hRewritten.content file hFile, rewritten, if_pos hCount]
  · have hLocations : ((engine.files values disk root).map Visited.location).Nodup :=
      Walk.nodup_location
    refine nodup_writes ((List.pairwise_map.mp hLocations).imp_of_mem ?_)
    intro first second hFirst hSecond hNe write hWrite write' hWrite'
    obtain ⟨-, rfl⟩ := replaceWrite?_eq_some hWrite
    obtain ⟨-, rfl⟩ := replaceWrite?_eq_some hWrite'
    rw [location?_of_found (hFound first hFirst), location?_of_found (hFound second hSecond)]
    exact fun hSame => hNe (Option.some.inj hSame)
  · intro location hElse
    by_cases hVisited : ∃ file ∈ engine.files values disk root, file.location = location
    · obtain ⟨file, hFile, rfl⟩ := hVisited
      have hCount : ¬ 0 < (engine.substitute values file.content).count := by
        intro hCount
        have hWrite : engine.replaceWrite? values file =
            some ⟨file, file.place, (engine.substitute values file.content).content⟩ :=
          if_pos (decide_eq_true hCount)
        exact (hElse _ (List.mem_filterMap.mpr ⟨file, hFile, hWrite⟩)).1 rfl
      rw [hRewritten.content file hFile, rewritten, if_neg hCount,
        (Walk.content_of_mem_visits hFree hFile).1]
    · exact hRewritten.kept location fun file hFile hSame => hVisited ⟨file, hFile, hSame⟩

theorem materializeWrite?_eq_some {file : Visited} {write : Write}
    (hWrite : engine.materializeWrite? values file = some write) :
    ∃ output, file.output? engine.config.suffix = some output ∧
      write = ⟨file, output, (engine.substitute values file.content).content⟩ ∧
      write.location? = file.outputLocation? engine.config.suffix := by
  obtain ⟨output, hOutput, rfl⟩ := Option.map_eq_some_iff.mp hWrite
  refine ⟨output, hOutput, rfl, ?_⟩
  rw [Visited.outputLocation?, hOutput]
  rfl

theorem performed_materialize (values : Values) (hLive : engine.config.dryRun = false)
    (hFree : disk.LinkFree) (hRoot : disk.hasFolder root.address = true) {summary : Summary}
    (hResult : (engine.materialize disk root values).result = .ok summary)
    (hReported : (Notice.events (engine.materialize disk root values).notices).filterMap
      Event.written? = ((engine.templates values disk root).filterMap
        (engine.materializeWrite? values)).map fun write => write.output.path) :
    Performed disk
      ((engine.templates values disk root).filterMap (engine.materializeWrite? values))
      (engine.materialize disk root values) := by
  obtain ⟨done, todo, hReached, hEnd⟩ := exists_materialize values hLive hFree hRoot
  obtain rfl : todo = [] := by
    cases todo with
    | nil => rfl
    | cons file todo =>
        obtain ⟨-, output, -, hError⟩ := hEnd
        rw [hResult] at hError
        cases hError
  have hDone : engine.templates values disk root = done := by
    rw [hReached.templates_eq, List.append_nil]
  have hMaterialized := hReached.materialized
  have hFound : ∀ file ∈ done, file.Found := fun file hMem => hReached.found hMem
  rw [hDone] at hReported ⊢
  refine ⟨hReported, ?_, ?_, ?_, ?_⟩
  · intro write hMem
    obtain ⟨file, hFile, hWrite⟩ := List.mem_filterMap.mp hMem
    obtain ⟨output, -, rfl, -⟩ := materializeWrite?_eq_some hWrite
    exact (Walk.content_of_mem_visits hFree (hReached.mem_templates_of_done hFile)).1
  · intro write hMem
    obtain ⟨file, hFile, hWrite⟩ := List.mem_filterMap.mp hMem
    obtain ⟨output, -, rfl, hLocation⟩ := materializeWrite?_eq_some hWrite
    obtain ⟨location, hOutput, hContent⟩ := hMaterialized.output file hFile
    exact ⟨location, hLocation.trans hOutput, hContent⟩
  · have hOrder : done.Pairwise Visited.Precedes := hDone ▸ Walk.pairwise_visits
    refine nodup_writes (hOrder.imp_of_mem ?_)
    intro first second hFirst hSecond hPrecedes write hWrite write' hWrite'
    obtain ⟨-, -, -, hLocation⟩ := materializeWrite?_eq_some hWrite
    obtain ⟨-, -, -, hLocation'⟩ := materializeWrite?_eq_some hWrite'
    obtain ⟨location, hOutput, -⟩ := hMaterialized.output first hFirst
    rw [hLocation, hLocation', hOutput]
    exact (hPrecedes.output_ne_output (hFound first hFirst) (hFound second hSecond) hOutput).symm
  · intro location hElse
    refine hMaterialized.kept location fun file hFile => ?_
    obtain ⟨output, hOutput⟩ := isSome_output? hFree (hReached.mem_templates_of_done hFile)
    have hWrite : engine.materializeWrite? values file =
        some ⟨file, output, (engine.substitute values file.content).content⟩ := by
      rw [materializeWrite?, hOutput, Option.map_some]
    obtain ⟨-, -, -, hLocation⟩ := materializeWrite?_eq_some hWrite
    have hBoth := hElse _ (List.mem_filterMap.mpr ⟨file, hFile, hWrite⟩)
    rw [hLocation] at hBoth
    exact hBoth

/-- On a disk without links a dry run foretells a live one that comes to the end: it ends with the
same summary, leaves the disk alone, reports the same but for its previews, and these tell of the
writes of the live pass, one by one and in order, with what was there before and with what is
written. -/
theorem dry_run_predicts (engine : Engine) (disk : Disk) (root : Path) (values : Values)
    (hFree : disk.LinkFree) :
    let live := engine.withDryRun false
    let dry := engine.withDryRun true
    let rewrites := (engine.files values disk root).filterMap (engine.replaceWrite? values)
    let outputs :=
      (engine.templates values disk root).filterMap (engine.materializeWrite? values)
    (∀ summary, (live.replace disk root values).result = .ok summary →
      Performed disk rewrites (live.replace disk root values) ∧
      Predicts disk rewrites (live.replace disk root values) (dry.replace disk root values)) ∧
    (∀ summary, (live.materialize disk root values).result = .ok summary →
      Performed disk outputs (live.materialize disk root values) ∧
      Predicts disk outputs (live.materialize disk root values)
        (dry.materialize disk root values)) := by
  intro live dry rewrites outputs
  refine ⟨fun summary hResult => ?_, fun summary hResult => ?_⟩
  · obtain ⟨folder, links, -, hEnter, -⟩ := exists_of_result hResult
    have hRoot : disk.hasFolder root.address = true := Disk.hasFolder_iff.mpr ⟨_, _, hEnter⟩
    obtain ⟨hPredicts, hReported⟩ := predicts_pass _ _ (tells_replaceFile live values)
      (tells_replaceFile dry values) (foretells_replace engine values)
      (live.careful_replaceFile values) (exists_replaceFile_dry values rfl) hFree hResult
    exact ⟨performed_replace values rfl hFree hRoot hReported, hPredicts⟩
  · obtain ⟨folder, links, -, hEnter, -⟩ := exists_of_result hResult
    have hRoot : disk.hasFolder root.address = true := Disk.hasFolder_iff.mpr ⟨_, _, hEnter⟩
    obtain ⟨hPredicts, hReported⟩ := predicts_pass _ _ (tells_materializeFile live values)
      (tells_materializeFile dry values) (foretells_materialize engine values)
      (live.careful_materializeFile values) (exists_materializeFile_dry values rfl) hFree hResult
    have hPerformed := performed_materialize values rfl hFree hRoot hResult hReported
    exact ⟨hPerformed, hPredicts⟩

/-- One file is a template with a body that has no key, another one has nothing to be replaced. -/
theorem dry_run_predicts_with_fault :
    let name (text : String) (proper : Name.isProper text = true) : Name := ⟨text, proper⟩
    let folder := name "r" (by decide)
    let first : Location := [folder, name "a.tpl" (by decide)]
    let output : Location := [folder, name "a" (by decide)]
    let disk := (((Disk.empty.put [folder] .folder).put first
      (.file (Text.Utf8.encode "[[ ]][[A]]"))).put [folder, name "b" (by decide)]
      (.file (Text.Utf8.encode "[[B]]"))).put [folder, name "c" (by decide)]
      (.file (Text.Utf8.encode "[[A]]"))
    let engine : Engine := ⟨{}, 3145728, rfl, by decide, by decide, by decide⟩
    let values : Values := { assignments := [⟨"A", "x"⟩] }
    let live := engine.withDryRun false
    let dry := engine.withDryRun true
    disk.LinkFree ∧ (live.replace disk ⟨"r"⟩ values).result = .ok ⟨3, 2, 2⟩ ∧
    (dry.replace disk ⟨"r"⟩ values).result = .ok ⟨3, 2, 2⟩ ∧
    (dry.replace disk ⟨"r"⟩ values).disk = disk ∧
    (Notice.events (dry.replace disk ⟨"r"⟩ values).notices).filter Event.isPreview =
      [.preview ⟨"r/a.tpl"⟩ "[[ ]][[A]]" "[[ ]]x", .preview ⟨"r/c"⟩ "[[A]]" "x"] ∧
    (live.replace disk ⟨"r"⟩ values).disk.get? first =
      some (.file (Text.Utf8.encode "[[ ]]x")) ∧
    (live.materialize disk ⟨"r"⟩ values).result = .ok ⟨1, 1, 1⟩ ∧
    (dry.materialize disk ⟨"r"⟩ values).result = .ok ⟨1, 1, 1⟩ ∧
    (Notice.events (dry.materialize disk ⟨"r"⟩ values).notices).filter
        (fun event => !event.isPreview) =
      Notice.events (live.materialize disk ⟨"r"⟩ values).notices ∧
    (live.materialize disk ⟨"r"⟩ values).disk.get? output =
      some (.file (Text.Utf8.encode "[[ ]]x")) := by
  intro name folder first output disk engine values live dry
  have hFree : disk.LinkFree := by decide +kernel
  have hReplace : (live.replace disk ⟨"r"⟩ values).result = .ok ⟨3, 2, 2⟩ := by decide +kernel
  have hMaterialize : (live.materialize disk ⟨"r"⟩ values).result = .ok ⟨1, 1, 1⟩ := by
    decide +kernel
  obtain ⟨hBoth, hBoth'⟩ := dry_run_predicts engine disk ⟨"r"⟩ values hFree
  obtain ⟨-, hPredicts⟩ := hBoth _ hReplace
  obtain ⟨-, hPredicts'⟩ := hBoth' _ hMaterialize
  refine ⟨hFree, hReplace, hPredicts.result_eq.trans hReplace, hPredicts.disk_eq,
    hPredicts.previews_eq.trans ?_, ?_, hMaterialize, hPredicts'.result_eq.trans hMaterialize,
    hPredicts'.events_eq, ?_⟩
  all_goals decide +kernel

end Pass

end Engine

end Stencil
