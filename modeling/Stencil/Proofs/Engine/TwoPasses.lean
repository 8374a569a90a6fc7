import Mathlib.Data.List.Nodup
import Stencil.Proofs.Engine.InPlace
import Stencil.Proofs.Engine.Materialization

/-! Values put in place first, and templates turned into their outputs after that. Templates are
not spared by the first pass, so the second finds them as the first left them: it substitutes in
what was substituted, and it passes over templates that have become too large, or look binary now.
The two passes do what the second does by itself exactly when neither happens. -/

namespace Stencil

namespace Engine

open Substitution
open Walk (Visited)

variable {engine : Engine} {values : Values}

/-- A file as values put in place leave it. -/
def updated (engine : Engine) (values : Values) (file : Visited) : Visited :=
  { file with content := (engine.substitute values file.content).content }

/-- Whether a file is still visited once values were put in place in it. -/
def stays (engine : Engine) (values : Values) (file : Visited) : Bool :=
  (engine.updated values file).content.length ≤ engine.sizeLimit &&
    !Binary.isFile file.place.path (engine.updated values file).content

section Pass

variable {disk after : Disk} {root : Path} {file : Visited}

theorem Rewritten.sameShape {done : List Visited}
    (hRewritten : Rewritten engine values disk done after)
    (hContent : ∀ file ∈ done, disk.get? file.location = some (.file file.content)) :
    disk.SameShape after := by
  refine ⟨hRewritten.workingFolder_eq, fun location => ?_⟩
  by_cases hDone : ∃ file ∈ done, file.location = location
  · obtain ⟨file, hMem, rfl⟩ := hDone
    rw [hRewritten.content file hMem, hContent file hMem]
    rfl
  · have hElse : ∀ file ∈ done, file.location ≠ location := fun file hMem hSame =>
      hDone ⟨file, hMem, hSame⟩
    rw [hRewritten.kept location hElse]

/-- Templates are among the files of a pass in place. -/
theorem mem_files_of_mem_templates (hMem : file ∈ engine.templates values disk root) :
    file ∈ engine.files values disk root := by
  cases hRoot : disk.enter root.address with
  | error cause =>
      rw [templates, Walk.visits, hRoot] at hMem
      exact absurd hMem List.not_mem_nil
  | ok inside =>
      obtain ⟨base, links⟩ := inside
      obtain ⟨names, hFile⟩ := (Walk.mem_visits_iff hRoot).mp hMem
      exact (Walk.mem_visits_iff hRoot).mpr ⟨names, { hFile with suffix := by simp }⟩

/-- The templates of a second pass are those of the first that stay, as they were left. -/
theorem templates_of_rewritten (hFree : disk.LinkFree)
    (hRoot : disk.hasFolder root.address = true)
    (hRewritten : Rewritten engine values disk (engine.files values disk root) after) :
    engine.templates values after root =
      ((engine.templates values disk root).filter (engine.stays values)).map
        (engine.updated values) := by
  have hContent : ∀ file ∈ engine.files values disk root,
      disk.get? file.location = some (.file file.content) := fun file hMem =>
    (Walk.content_of_mem_visits hFree hMem).1
  have hShape : disk.SameShape after := hRewritten.sameShape hContent
  have hAfter : after.LinkFree := hFree.of_sameShape hShape
  obtain ⟨base, links, hEnter⟩ := Disk.hasFolder_iff.mp hRoot
  have hEnterAfter : after.enter root.address = .ok (base, links) :=
    (Disk.enter_of_sameShape hShape _).trans hEnter
  symm
  apply Walk.visits_eq
  · intro file
    rw [Walk.mem_visits_iff hEnterAfter, List.mem_map]
    constructor
    · rintro ⟨old, hOld, rfl⟩
      obtain ⟨hMem, hStays⟩ := List.mem_filter.mp hOld
      obtain ⟨names, hFile⟩ := (Walk.mem_visits_iff hEnter).mp hMem
      have hNode := hRewritten.content old (mem_files_of_mem_templates hMem)
      rw [rewritten_eq] at hNode
      simp only [stays, Bool.and_eq_true, decide_eq_true_eq, Bool.not_eq_true'] at hStays
      exact ⟨names, hFile.update hShape hAfter hNode hStays.1 hStays.2⟩
    · rintro ⟨names, hFile⟩
      by_cases hVisited : ∃ old ∈ engine.files values disk root, old.location = file.location
      · obtain ⟨old, hMem, hSame⟩ := hVisited
        obtain ⟨names', hOld⟩ := (Walk.mem_visits_iff hEnter).mp hMem
        obtain ⟨rfl, hUpdate⟩ := hOld.eq_of_location hFile hSame
        have hNode := hRewritten.content old hMem
        rw [hSame, hFile.get?_location hAfter, rewritten_eq] at hNode
        have hText : file.content = (engine.substitute values old.content).content := by
          simpa using hNode
        have hUpdated : engine.updated values old = file := by
          rw [updated, ← hText, hUpdate]
        have hName : old.name = file.name := by rw [← hUpdate]
        have hPath : old.place.path = file.place.path := by rw [← hUpdate]
        refine ⟨old, List.mem_filter.mpr ⟨?_, ?_⟩, hUpdated⟩
        · refine (Walk.mem_visits_iff hEnter).mpr ⟨names', { hOld with suffix := ?_ }⟩
          rw [hName]
          exact hFile.suffix
        · simp only [stays, hUpdated, Bool.and_eq_true, decide_eq_true_eq, Bool.not_eq_true']
          exact ⟨hFile.size_le, hPath ▸ hFile.text⟩
      · -- what the first pass did not visit is as it was, and so was no template then
        have hElse : ∀ old ∈ engine.files values disk root, old.location ≠ file.location :=
          fun old hMem hSame => hVisited ⟨old, hMem, hSame⟩
        have hNode := hFile.get?_location hAfter
        rw [hRewritten.kept file.location hElse] at hNode
        have hBefore := hFile.update hShape.symm hFree hNode hFile.size_le hFile.text
        have hMem : file ∈ engine.templates values disk root :=
          (Walk.mem_visits_iff hEnter).mpr ⟨names, hBefore⟩
        exact absurd rfl (hElse file (mem_files_of_mem_templates hMem))
  · exact List.pairwise_map.mpr (Walk.pairwise_sooner.filter _)

/-- How a pass over templates ends: all of them done, or stopped by the first that is blocked. -/
theorem exists_materialize (values : Values) (hLive : engine.config.dryRun = false)
    (hFree : disk.LinkFree) (hRoot : disk.hasFolder root.address = true) :
    ∃ done todo, engine.Reached values disk root done todo
        (engine.materialize disk root values).disk ∧
      match todo with
      | [] => (engine.materialize disk root values).result = .ok ⟨done.length, done.length,
          (done.map fun file => (engine.substitute values file.content).count).sum⟩
      | file :: _ => file.isBlocked engine.config.suffix disk = true ∧
          ∃ output, file.output? engine.config.suffix = some output ∧
            (engine.materialize disk root values).result =
              .error (.disk output.path .isFolder) := by
  have hEnds := ends_materialize values hLive hFree hRoot
    [.line .info ("Starting template processing: " ++ Text.quoted root.text)]
  rw [materialize, pass]
  cases hRun : Walk.run ⟨engine.filterFor values, some engine.config.suffix⟩ root
      (engine.materializeFile values)
      ⟨disk, [.line .info ("Starting template processing: " ++ Text.quoted root.text)], 0, 0,
        .zero⟩ with
  | error stopped =>
      rw [hRun] at hEnds
      obtain ⟨done, file, todo, output, hReached, hBlocked, hOutput, hFault⟩ := hEnds
      exact ⟨done, file :: todo, hReached, hBlocked, output, hOutput, congrArg Except.error hFault⟩
  | ok after =>
      rw [hRun] at hEnds
      obtain ⟨done, hReached, hVisited, hGathered⟩ := hEnds
      refine ⟨done, [], hReached, ?_⟩
      show Except.ok (summarize after) = _
      rw [summarize, hGathered, hVisited]

/-- A pass that nothing blocks turns all templates into their outputs. -/
theorem materialize_of_unblocked (values : Values) (hLive : engine.config.dryRun = false)
    (hFree : disk.LinkFree) (hRoot : disk.hasFolder root.address = true)
    (hOpen : ∀ file ∈ engine.templates values disk root,
      file.isBlocked engine.config.suffix disk = false) :
    (∃ summary, (engine.materialize disk root values).result = .ok summary ∧
      summary.changed = (engine.templates values disk root).length) ∧
    Materialized engine values disk (engine.templates values disk root)
      (engine.materialize disk root values).disk := by
  obtain ⟨done, todo, hReached, hEnd⟩ := exists_materialize values hLive hFree hRoot
  cases todo with
  | nil =>
      have hDone : engine.templates values disk root = done := by
        rw [hReached.templates_eq, List.append_nil]
      rw [hDone]
      exact ⟨⟨_, hEnd, rfl⟩, hReached.materialized⟩
  | cons file todo =>
      have hBlocked := hOpen file (hReached.mem_templates List.mem_cons_self)
      rw [hEnd.1] at hBlocked
      cases hBlocked

theorem isBlocked_of_sameShape (hShape : disk.SameShape after) (file : Visited) :
    file.isBlocked engine.config.suffix after = file.isBlocked engine.config.suffix disk := by
  simp only [Visited.isBlocked, Disk.hasFolder_of_sameShape hShape]

/-- Two disks hold the same where these templates lie and where their outputs go. -/
def SameOutputs (engine : Engine) (templates : List Visited) (disk disk' : Disk) : Prop :=
  ∀ file ∈ templates, disk.get? file.location = disk'.get? file.location ∧
    ∀ location, file.outputLocation? engine.config.suffix = some location →
      disk.get? location = disk'.get? location

/-- The outputs that some templates and their updates have in common. -/
theorem SameOutputs.of_materialized {middle after' : Disk} {done : List Visited}
    (hAlone : Materialized engine values disk done after)
    (hAgain : Materialized engine values middle (done.map (engine.updated values)) after')
    (hSame : ∀ file ∈ done,
      (engine.updated values (engine.updated values file)).content =
        (engine.updated values file).content) :
    SameOutputs engine done after' after := by
  have hOutputs : ∀ file ∈ done, ∀ location,
      file.outputLocation? engine.config.suffix = some location →
        after'.get? location = after.get? location := by
    intro file hMem location hLocation
    obtain ⟨place, hPlace, hNode⟩ := hAlone.output file hMem
    obtain ⟨place', hPlace', hNode'⟩ := hAgain.output _ (List.mem_map_of_mem hMem)
    obtain rfl := Option.some.inj (hPlace.symm.trans hLocation)
    obtain rfl := Option.some.inj (hPlace'.symm.trans hLocation)
    rw [hNode, hNode']
    exact congrArg (fun content => some (Node.file content)) (hSame file hMem)
  intro file hMem
  refine ⟨?_, hOutputs file hMem⟩
  by_cases hOutput : ∃ other ∈ done, other.outputLocation? engine.config.suffix =
      some file.location
  · obtain ⟨other, hOther, hLocation⟩ := hOutput
    exact hOutputs other hOther _ hLocation
  · have hNone : ∀ other ∈ done,
        other.outputLocation? engine.config.suffix ≠ some file.location :=
      fun other hOther hLocation => hOutput ⟨other, hOther, hLocation⟩
    have hGone : after'.get? (engine.updated values file).location = none := by
      refine hAgain.removed _ (List.mem_map_of_mem hMem) ?_
      intro other hOther
      obtain ⟨old, hOld, rfl⟩ := List.mem_map.mp hOther
      exact hNone old hOld
    rw [hAlone.removed file hMem hNone]
    exact hGone

/-- Of two templates at one location both stay, or none. -/
theorem location_ne_of_stays {file other : Visited}
    (hMem : file ∈ engine.templates values disk root) (hStays : engine.stays values file = false)
    (hOther : other ∈ ((engine.templates values disk root).filter (engine.stays values)).map
      (engine.updated values)) : other.location ≠ file.location := by
  intro hSame
  obtain ⟨old, hOld, rfl⟩ := List.mem_map.mp hOther
  obtain ⟨hOldMem, hOldStays⟩ := List.mem_filter.mp hOld
  have hFile : old = file := List.inj_on_of_nodup_map Walk.nodup_location hOldMem hMem hSame
  rw [hFile, hStays] at hOldStays
  cases hOldStays

section TwoPasses

variable (values) (hLive : engine.config.dryRun = false) (hFree : disk.LinkFree)
  (hRoot : disk.hasFolder root.address = true)

include hLive hFree hRoot

theorem sameShape_replace : disk.SameShape (engine.replace disk root values).disk :=
  (rewritten_replace values hLive hFree hRoot).sameShape fun _ hMem =>
    (Walk.content_of_mem_visits hFree hMem).1

theorem templates_replace :
    engine.templates values (engine.replace disk root values).disk root =
      ((engine.templates values disk root).filter (engine.stays values)).map
        (engine.updated values) :=
  templates_of_rewritten hFree hRoot (rewritten_replace values hLive hFree hRoot)

/-- Two passes do what the second does by itself exactly if all templates stay, and substituting
once more would change nothing in them. -/
theorem sameOutputs_iff
    (hOpen : ∀ file ∈ engine.templates values disk root,
      file.isBlocked engine.config.suffix disk = false) :
    let outcome := engine.materialize (engine.replace disk root values).disk root values
    (∃ summary, outcome.result = .ok summary ∧
      summary.changed = (engine.templates values disk root).length) ∧
      SameOutputs engine (engine.templates values disk root) outcome.disk
        (engine.materialize disk root values).disk ↔
    ∀ file ∈ engine.templates values disk root, engine.stays values file = true ∧
      (engine.updated values (engine.updated values file)).content =
        (engine.updated values file).content := by
  intro outcome
  have hShape := sameShape_replace values hLive hFree hRoot
  have hAgain := templates_replace values hLive hFree hRoot
  have hOpenAgain : ∀ file ∈ engine.templates values (engine.replace disk root values).disk root,
      file.isBlocked engine.config.suffix (engine.replace disk root values).disk = false := by
    intro file hMem
    rw [hAgain] at hMem
    obtain ⟨old, hOld, rfl⟩ := List.mem_map.mp hMem
    rw [isBlocked_of_sameShape hShape]
    exact hOpen old (List.mem_filter.mp hOld).1
  obtain ⟨-, hAlone⟩ := materialize_of_unblocked values hLive hFree hRoot hOpen
  obtain ⟨⟨summary, hResult, hCount⟩, hOutcome⟩ := materialize_of_unblocked values hLive
    (hFree.of_sameShape hShape) ((Disk.hasFolder_of_sameShape hShape _).trans hRoot) hOpenAgain
  rw [hAgain] at hCount hOutcome
  rw [List.length_map] at hCount
  constructor
  · rintro ⟨⟨summary', hResult', hCount'⟩, hSame⟩ file hMem
    obtain rfl : summary = summary' := Except.ok.inj (hResult.symm.trans hResult')
    have hStays : engine.stays values file = true :=
      List.length_filter_eq_length_iff.mp (hCount.symm.trans hCount') file hMem
    refine ⟨hStays, ?_⟩
    obtain ⟨location, hLocation, hNode⟩ := hAlone.output file hMem
    obtain ⟨location', hLocation', hNode'⟩ := hOutcome.output (engine.updated values file)
      (List.mem_map_of_mem (List.mem_filter.mpr ⟨hMem, hStays⟩))
    obtain rfl := Option.some.inj (hLocation.symm.trans hLocation')
    have hNodes := (hSame file hMem).2 location hLocation
    rw [hNode, hNode'] at hNodes
    exact Node.file.inj (Option.some.inj hNodes)
  · intro hAll
    have hFilter : (engine.templates values disk root).filter (engine.stays values) =
        engine.templates values disk root :=
      List.filter_eq_self.mpr fun file hMem => (hAll file hMem).1
    rw [hFilter] at hCount hOutcome
    exact ⟨⟨summary, hResult, hCount⟩, .of_materialized hAlone hOutcome fun file hMem =>
      (hAll file hMem).2⟩

/-- What two passes leave. The first comes to the end and substitutes in each template where it is.
The second turns those that are still small enough and no binaries into outputs, substituting once
more, up to one whose output is blocked, and leaves the others where they are. They do what the
second does by itself exactly if all templates stay and nothing is left to substitute in them. -/
theorem replace_then_materialize :
    let templates := engine.templates values disk root
    let again := (templates.filter (engine.stays values)).map (engine.updated values)
    let isBlocked := Visited.isBlocked engine.config.suffix disk
    let replaced := engine.replace disk root values
    let outcome := engine.materialize replaced.disk root values
    (∃ summary, replaced.result = .ok summary) ∧
    (∀ file ∈ templates,
      replaced.disk.get? file.location = some (.file (engine.updated values file).content)) ∧
    engine.templates values replaced.disk root = again ∧
    (∃ done todo, again = done ++ todo ∧ (∀ file ∈ done, isBlocked file = false) ∧
      Materialized engine values replaced.disk done outcome.disk ∧
      (∀ file ∈ templates, engine.stays values file = false →
        (∀ other ∈ done, other.outputLocation? engine.config.suffix ≠ some file.location) →
          outcome.disk.get? file.location = some (.file (engine.updated values file).content)) ∧
      match todo with
      | [] => outcome.result = .ok ⟨done.length, done.length,
          (done.map fun file => (engine.substitute values file.content).count).sum⟩
      | file :: _ => isBlocked file = true ∧
          ∃ output, file.output? engine.config.suffix = some output ∧
            outcome.result = .error (.disk output.path .isFolder)) ∧
    ((∀ file ∈ templates, isBlocked file = false) →
      ((∃ summary, outcome.result = .ok summary ∧ summary.changed = templates.length) ∧
          SameOutputs engine templates outcome.disk (engine.materialize disk root values).disk ↔
        ∀ file ∈ templates, engine.stays values file = true ∧
          (engine.updated values (engine.updated values file)).content =
            (engine.updated values file).content)) := by
  intro templates again isBlocked replaced outcome
  have hShape : disk.SameShape replaced.disk := sameShape_replace values hLive hFree hRoot
  have hRewritten := rewritten_replace values hLive hFree hRoot
  have hUpdated : ∀ file ∈ templates,
      replaced.disk.get? file.location = some (.file (engine.updated values file).content) := by
    intro file hMem
    have hNode := hRewritten.content file (mem_files_of_mem_templates hMem)
    rw [rewritten_eq] at hNode
    exact hNode
  obtain ⟨after, closed, -, -, hReplace⟩ := exists_replace values hLive hFree hRoot
  refine ⟨⟨_, by rw [show replaced = _ from hReplace]⟩, hUpdated,
    templates_replace values hLive hFree hRoot, ?_, sameOutputs_iff values hLive hFree hRoot⟩
  obtain ⟨done, todo, hReached, hEnd⟩ := exists_materialize values hLive
    (hFree.of_sameShape hShape) ((Disk.hasFolder_of_sameShape hShape _).trans hRoot)
  have hAgain : again = done ++ todo := by
    rw [← hReached.templates_eq, templates_replace values hLive hFree hRoot]
  refine ⟨done, todo, hAgain, ?_, hReached.materialized, ?_, ?_⟩
  · intro file hMem
    rw [← hReached.unblocked file hMem]
    exact (isBlocked_of_sameShape hShape file).symm
  · intro file hMem hStays hNoOutput
    rw [hReached.materialized.kept file.location fun other hOther => ⟨?_, hNoOutput other hOther⟩]
    · exact hUpdated file hMem
    · have hOtherAgain : other ∈ again := by
        rw [hAgain]
        exact List.mem_append_left _ hOther
      exact location_ne_of_stays hMem hStays hOtherAgain
  · cases todo with
    | nil => exact hEnd
    | cons file todo =>
        refine ⟨?_, hEnd.2⟩
        rw [← hEnd.1]
        exact (isBlocked_of_sameShape hShape file).symm

end TwoPasses

/-- Where no value brings a key along, two passes do what one does. -/
theorem replace_then_materialize_as_alone :
    let name (text : String) (proper : Name.isProper text = true) : Name := ⟨text, proper⟩
    let folder := name "r" (by decide)
    let disk := ((Disk.empty.put [folder] .folder).put [folder, name "a.tpl" (by decide)]
      (.file (Text.Utf8.encode "1 [[A]]"))).put [folder, name "a.tpl.tpl" (by decide)]
      (.file (Text.Utf8.encode "2 [[A]]"))
    let engine : Engine := ⟨{}, 3145728, rfl, by decide, by decide, by decide⟩
    let values : Values := { assignments := [⟨"A", "x"⟩] }
    let templates := engine.templates values disk ⟨"r"⟩
    let outcome := engine.materialize (engine.replace disk ⟨"r"⟩ values).disk ⟨"r"⟩ values
    engine.config.dryRun = false ∧ disk.LinkFree ∧ disk.hasFolder (Path.address ⟨"r"⟩) = true ∧
    templates.map (fun file => file.place.path.text) = ["r/a.tpl", "r/a.tpl.tpl"] ∧
    (∃ summary, outcome.result = .ok summary ∧ summary.changed = templates.length) ∧
    SameOutputs engine templates outcome.disk (engine.materialize disk ⟨"r"⟩ values).disk := by
  intro name folder disk engine values templates outcome
  have hFree : disk.LinkFree := by decide +kernel
  have hRoot : disk.hasFolder (Path.address ⟨"r"⟩) = true := by decide +kernel
  have hOpen : ∀ file ∈ templates, file.isBlocked engine.config.suffix disk = false := by
    decide +kernel
  have hStay : ∀ file ∈ templates, engine.stays values file = true ∧
      (engine.updated values (engine.updated values file)).content =
        (engine.updated values file).content := by
    decide +kernel
  obtain ⟨-, -, -, -, hIff⟩ :=
    replace_then_materialize values (rfl : engine.config.dryRun = false) hFree hRoot
  obtain ⟨hResult, hSame⟩ := (hIff hOpen).mpr hStay
  exact ⟨rfl, hFree, hRoot, by decide +kernel, hResult, hSame⟩

/-- A value that holds another key is substituted in again, and a template that is given control
bytes is left behind. One pass alone does neither. -/
theorem two_passes_substitute_again_and_leave_behind :
    let name (text : String) (proper : Name.isProper text = true) : Name := ⟨text, proper⟩
    let folder := name "r" (by decide)
    let left : Location := [folder, name "b.tpl" (by decide)]
    let output : Location := [folder, name "a" (by decide)]
    let controls := "\x01\x01\x01\x01\x01\x01\x01\x01\x01"
    let disk := ((Disk.empty.put [folder] .folder).put [folder, name "a.tpl" (by decide)]
      (.file (Text.Utf8.encode "[[A]]"))).put left (.file (Text.Utf8.encode "[[C]]"))
    let engine : Engine := ⟨{}, 3145728, rfl, by decide, by decide, by decide⟩
    let values : Values := { assignments := [⟨"A", "[[B]]"⟩, ⟨"B", "x"⟩, ⟨"C", controls⟩] }
    let outcome := engine.materialize (engine.replace disk ⟨"r"⟩ values).disk ⟨"r"⟩ values
    let alone := engine.materialize disk ⟨"r"⟩ values
    engine.config.dryRun = false ∧ disk.LinkFree ∧ disk.hasFolder (Path.address ⟨"r"⟩) = true ∧
    (∀ file ∈ engine.templates values disk ⟨"r"⟩,
      file.isBlocked engine.config.suffix disk = false) ∧
    alone.disk.get? output = some (.file (Text.Utf8.encode "[[B]]")) ∧
    outcome.disk.get? output = some (.file (Text.Utf8.encode "x")) ∧
    alone.disk.get? left = none ∧
    outcome.disk.get? left = some (.file (Text.Utf8.encode controls)) := by
  intro name folder left output controls disk engine values outcome alone
  refine ⟨rfl, ?_, ?_, ?_, ?_, ?_, ?_, ?_⟩ <;> decide +kernel

end Pass

end Engine

end Stencil
