import Stencil.Proofs.Command.Flag
import Stencil.Proofs.Engine.Confinement
import Stencil.Proofs.Engine.DryRun
import Stencil.Proofs.Session.Preparation

/-! What a run on a folder leaves alone, by the flags on its command line. -/

namespace Stencil.Session

open Walk (Visited)

variable {home target : Path} {run : RunOptions} {disk : Disk} {given values : Values}
  {engine : Engine} {census : Census}

theorem worked_dry (hDry : engine.config.dryRun = true) (target : Path) (run : RunOptions)
    (values : Values) (disk : Disk) : worked engine target run values disk = disk := by
  simp only [worked, Engine.disk_replace_dry hDry, Engine.disk_materialize_dry hDry, ite_self]
  split
  · rfl
  · split <;> rfl

/-- Without a pass over templates, files change in what they hold and in nothing else. -/
theorem sameShape_worked (hFolder : disk.hasFolder target.address = true)
    (hProcess : run.processTemplates = false) (values : Values) :
    disk.SameShape (worked engine target run values disk) := by
  obtain ⟨base, links, hRoot⟩ := Disk.hasFolder_iff.mp hFolder
  have hReplace := (engine.confined_replace disk target values hRoot).sameShape
  simp only [worked, hProcess, Bool.false_eq_true, if_false]
  split
  · exact .refl disk
  · split <;> exact hReplace

/-- A pass over templates changes nothing but templates and their outputs. -/
theorem exists_template_of_changed (hFree : disk.LinkFree)
    (hFolder : disk.hasFolder target.address = true) {location : Location}
    (hChanged : (engine.materialize disk target values).disk.get? location ≠ disk.get? location) :
    ∃ file ∈ engine.templates values disk target, file.location = location ∨
      ∃ short : Name, short.text ++ engine.config.suffix = file.name.text ∧
        file.place.address.folder ++ [short] = location := by
  cases hDry : engine.config.dryRun with
  | true =>
      rw [Engine.disk_materialize_dry hDry] at hChanged
      exact absurd rfl hChanged
  | false =>
      obtain ⟨done, todo, hReached, -⟩ := Engine.exists_materialize values hDry hFree hFolder
      by_contra hNone
      refine hChanged (hReached.materialized.kept location fun file hMem => ?_)
      have hFile := hReached.mem_templates_of_done hMem
      refine ⟨fun hSame => hNone ⟨file, hFile, .inl hSame⟩, fun hOutput => ?_⟩
      obtain ⟨short, hShort, hLocation⟩ :=
        Visited.outputLocation?_eq_some (hReached.found hMem) hOutput
      exact hNone ⟨file, hFile, .inr ⟨short, hShort, hLocation.symm⟩⟩

theorem templates_valuesFor (engine : Engine) (census : Census) (given : Values) (disk : Disk)
    (root : Path) : engine.templates (Discovery.valuesFor census given) disk root =
      engine.templates given disk root := by
  rw [Engine.templates, Engine.templates, Engine.filterFor, Engine.filterFor,
    Discovery.ignorePatterns_valuesFor]

/-- A run on a folder either stops early, with the disk as it was, or leaves what its passes leave.
Its flags bound what that may be: nothing changes in a dry run, nothing but what files hold where no
templates are processed, and on a disk without links nothing but templates and their outputs where
only templates are. -/
theorem run_bounded_by_flags (home : Path) (disk : Disk) {arguments : List String}
    {target : Path} {run : RunOptions} {verbose quiet : Bool}
    (hParse : Invocation.parse arguments = .ok ⟨.template target run, verbose, quiet⟩) :
    let report := Session.run home arguments disk
    (∀ failure, StopsEarly home target run disk failure →
      report.ending = .failed failure ∧ report.disk = disk) ∧
    ((∃ failure, StopsEarly home target run disk failure) ∨
      ∃ given engine census, Prepared home target run disk given engine census ∧
        report.disk = worked engine target run (Discovery.valuesFor census given) disk) ∧
    ("--dry-run" ∈ arguments → report.disk = disk) ∧
    ("--process-templates" ∉ arguments → disk.SameShape report.disk) ∧
    ("--only-templates" ∈ arguments → disk.LinkFree → ∀ location,
      report.disk.get? location ≠ disk.get? location →
        ∃ given engine census, Prepared home target run disk given engine census ∧
          ∃ file ∈ engine.templates given disk target, file.location = location ∨
            ∃ short : Name, short.text ++ engine.config.suffix = file.name.text ∧
              file.place.address.folder ++ [short] = location) := by
  intro report
  have hFlags := Invocation.setBy_of_parse hParse
  have hStops (failure : Failure) (hFailure : StopsEarly home target run disk failure) :
      report.ending = .failed failure ∧ report.disk = disk :=
    run_fails hParse (fails_template verbose hFailure)
  have hOutcome : (∃ failure, StopsEarly home target run disk failure) ∨
      ∃ given engine census, Prepared home target run disk given engine census ∧
        report.disk = worked engine target run (Discovery.valuesFor census given) disk := by
    refine (stopsEarly_or_prepared home target run disk).imp_right ?_
    rintro ⟨given, engine, census, hPrepared⟩
    exact ⟨given, engine, census, hPrepared, disk_run hParse (hPrepared.leaves_template verbose)⟩
  refine ⟨hStops, hOutcome, fun hDry => ?_, fun hProcess => ?_,
    fun hOnly hFree location hChanged => ?_⟩
  · obtain ⟨failure, hFailure⟩ | ⟨given, engine, census, hPrepared, hWorked⟩ := hOutcome
    · exact (hStops failure hFailure).2
    · rw [hWorked, worked_dry (hPrepared.equipped.options_eq.1.trans (hFlags.dryRun.mpr hDry))]
  · obtain ⟨failure, hFailure⟩ | ⟨given, engine, census, hPrepared, hWorked⟩ := hOutcome
    · rw [(hStops failure hFailure).2]
      exact .refl disk
    · rw [hWorked]
      exact sameShape_worked hPrepared.equipped.hasFolder
        (Bool.eq_false_iff.mpr (mt hFlags.processTemplates.mp hProcess)) _
  · obtain ⟨failure, hFailure⟩ | ⟨given, engine, census, hPrepared, hWorked⟩ := hOutcome
    · rw [(hStops failure hFailure).2] at hChanged
      exact absurd rfl hChanged
    · refine ⟨given, engine, census, hPrepared, ?_⟩
      rw [hWorked, worked, if_pos (hFlags.onlyTemplates.mpr hOnly)] at hChanged
      rw [← templates_valuesFor engine census]
      split at hChanged
      · exact exists_template_of_changed hFree hPrepared.equipped.hasFolder hChanged
      · exact absurd rfl hChanged

/-- Only the template is worked on, and in a dry run not even that. The working folder is not the
top of the disk, and the values, the root and the home are named by absolute paths. -/
theorem run_bounded_by_flags_on_template :
    let folder : Location := [⟨"work", by decide⟩, ⟨"root", by decide⟩]
    let template : Location := folder ++ [⟨"a.tpl", by decide⟩]
    let output : Location := folder ++ [⟨"a", by decide⟩]
    let other : Location := folder ++ [⟨"b", by decide⟩]
    let disk := ((((Disk.workingIn ⟨"/work"⟩).put folder .folder).put template
      (.file (Text.Utf8.encode "[[A]]"))).put other (.file (Text.Utf8.encode "[[A]]"))).put
      [⟨"v.json", by decide⟩]
      (.file (Text.Utf8.encode "\x7b\"variables\":[[\"A\",\"x\"]]\x7d"))
    let arguments := ["template", "--dir", "/work/root", "-i", "/v.json", "--process-templates",
      "--only-templates"]
    let run : RunOptions :=
      { input := some ⟨"/v.json"⟩, processTemplates := true, onlyTemplates := true }
    let report := Session.run ⟨"/home"⟩ arguments disk
    Invocation.parse arguments = .ok ⟨.template ⟨"/work/root"⟩ run, false, false⟩ ∧ disk.LinkFree ∧
    report.disk.get? template = none ∧ disk.get? output = none ∧
    report.disk.get? output = some (.file (Text.Utf8.encode "x")) ∧
    report.disk.get? other = some (.file (Text.Utf8.encode "[[A]]")) ∧
    (∃ given engine census, Prepared ⟨"/home"⟩ ⟨"/work/root"⟩ run disk given engine census ∧
      ∃ file ∈ engine.templates given disk ⟨"/work/root"⟩, file.location = output ∨
        ∃ short : Name, short.text ++ engine.config.suffix = file.name.text ∧
          file.place.address.folder ++ [short] = output) ∧
    Invocation.parse (arguments ++ ["--dry-run"]) =
      .ok ⟨.template ⟨"/work/root"⟩ { run with dryRun := true }, false, false⟩ ∧
    (Session.run ⟨"/home"⟩ (arguments ++ ["--dry-run"]) disk).disk = disk := by
  intro folder template output other disk arguments run report
  have hParse : Invocation.parse arguments = .ok ⟨.template ⟨"/work/root"⟩ run, false, false⟩ := by
    decide +kernel
  have hParse' : Invocation.parse (arguments ++ ["--dry-run"]) =
      .ok ⟨.template ⟨"/work/root"⟩ { run with dryRun := true }, false, false⟩ := by decide +kernel
  have hFree : disk.LinkFree := by decide +kernel
  have hBefore : disk.get? output = none := by decide +kernel
  have hAfter : report.disk.get? output = some (.file (Text.Utf8.encode "x")) := by
    decide +kernel
  have hChanged : report.disk.get? output ≠ disk.get? output := by
    rw [hBefore, hAfter]
    exact Option.some_ne_none _
  obtain ⟨-, -, -, -, hOnly⟩ := run_bounded_by_flags ⟨"/home"⟩ disk hParse
  obtain ⟨-, -, hDry, -⟩ := run_bounded_by_flags ⟨"/home"⟩ disk hParse'
  exact ⟨hParse, hFree, by decide +kernel, hBefore, hAfter, by decide +kernel,
    hOnly (by decide) hFree output hChanged, hParse', hDry (by decide)⟩

end Stencil.Session
