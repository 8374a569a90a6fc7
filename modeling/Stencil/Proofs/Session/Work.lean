import Stencil.Proofs.Engine.InPlace
import Stencil.Proofs.Session.Preparation

/-! What is put in place by a run that changes its folder: the values that it was given, as far as
the count before it does not drop any. -/

namespace Stencil.Session

/-- A run without a dry run, without questions and with parsed placeholders. -/
structure IsLive (run : RunOptions) : Prop where
  onlyTemplates : run.onlyTemplates = false
  literal : run.literal = false
  dryRun : run.dryRun = false
  interactive : run.interactive = false

/-- A run puts in place what the last values of the given keys are, less the empty ones, exactly if
each key that a file looks up and that was given a value keeps it through the count. So it does
where no scanned body of a visited file runs over the end of a line. The tree alone is the same
exactly if each file gets the same content from both. -/
theorem template_gives_what_was_given_iff {home target : Path} {run : RunOptions} {disk : Disk}
    {settings : Settings} {given : Values} {engine : Engine} (verbose : Bool) (hLive : IsLive run)
    (hFree : disk.LinkFree) (hTarget : disk.hasFolder target.address = true)
    (hSettings : (Settings.load disk (Settings.pathIn home)).1 = .ok settings)
    (hGiven : Given disk run given)
    (hEngine : Engine.ofConfig { settings.configFor run with
      ignorePatterns := (settings.configFor run).ignorePatterns ++ given.ignorePatterns } =
        .ok engine) :
    ∃ census, (engine.analyze disk target false).result = .ok census ∧
      let values := Discovery.valuesFor census given
      let replaced := engine.replace disk target values
      let direct := engine.replace disk target given.withoutBlanks
      (∀ outputs, ((template home target run verbose).run ⟨disk, outputs⟩).2.disk =
        if run.processTemplates then (engine.materialize replaced.disk target values).disk
        else replaced.disk) ∧
      (replaced = direct ↔
        ∀ file ∈ engine.files given disk target, ∀ span ∈ engine.spans file.content, ∀ key,
          Substitution.Tokenized.key? span.body = some key →
            Discovery.KeepsValue census given key) ∧
      ((∀ location, replaced.disk.get? location = direct.disk.get? location) ↔
        ∀ file ∈ engine.files given disk target,
          (engine.substitute values file.content).content =
            (engine.substitute given.withoutBlanks file.content).content) ∧
      ((∀ file ∈ engine.files given disk target,
          ∀ span ∈ Span.scan (Text.Utf8.encode engine.config.opening)
            (Text.Utf8.encode engine.config.closing) file.content, Span.newline ∉ span.body) →
        replaced = direct) := by
  have hConfig := Engine.config_of_ofConfig hEngine
  have hStrategy : engine.config.strategy = .tokenized := by
    rw [hConfig]
    simp [Settings.configFor, hLive.literal]
  have hPatterns : given.ignorePatterns ⊆ engine.config.ignorePatterns := by
    rw [hConfig]
    exact List.subset_append_right _ _
  have hSize : SizeLimit.parse (settings.configFor run).sizeLimit = .ok engine.sizeLimit := by
    rw [← engine.sizeLimit_eq, hConfig]
  obtain ⟨census, hCensus, -, hKeys⟩ := engine.analyze_ok hFree hTarget
  rw [← Engine.files_eq_visits hPatterns] at hKeys
  obtain ⟨summary, hSummary, -⟩ :=
    engine.result_replace (Discovery.valuesFor census given) hFree hTarget
  have hIff := Engine.replace_valuesFor_iff hStrategy hFree hTarget census given
  have hDry : engine.config.dryRun = false := by
    rw [hConfig]
    exact hLive.dryRun
  have hSame : (Discovery.valuesFor census given).ignorePatterns =
      given.withoutBlanks.ignorePatterns := Discovery.ignorePatterns_valuesFor census given
  have hTree := Engine.sameTree_iff hDry hFree hTarget hSame
  rw [Engine.files_valuesFor] at hTree
  refine ⟨census, hCensus, ?_, hIff, hTree, fun hLines => ?_⟩
  · have hPrepared : Prepared home target run disk given engine census :=
      ⟨⟨⟨_, ⟨hTarget, ⟨settings, hSettings, rfl⟩, ⟨_, hSize⟩⟩, hConfig⟩, hGiven⟩,
        hLive.onlyTemplates ▸ hCensus, .inr hLive.interactive⟩
    rw [← worked_of_ok hLive.onlyTemplates hSummary]
    exact hPrepared.leaves_template verbose
  · exact hIff.mpr (Engine.keepsValue_of_on_lines hKeys hLines)

theorem template_gives_what_was_given_on_lines :
    let folder : Name := ⟨"root", by decide⟩
    let file : Location := [folder, ⟨"a.txt", by decide⟩]
    let disk := ((Disk.empty.put [folder] .folder).put file
      (.file (Text.Utf8.encode "[[A:toUpperCase]] [[B]]\n[[C"))).put [⟨"v.json", by decide⟩]
      (.file (Text.Utf8.encode "\x7b\"variables\":[[\"A\",\"x\"],[\"B\",\"\"]]\x7d"))
    let run : RunOptions := { input := some ⟨"v.json"⟩ }
    let given : Values := { assignments := [⟨"A", "x"⟩, ⟨"B", ""⟩] }
    let engine : Engine := ⟨{}, 3145728, rfl, by decide, by decide, by decide⟩
    IsLive run ∧ disk.LinkFree ∧ disk.hasFolder (Path.address ⟨"root"⟩) = true ∧
    (Settings.load disk (Settings.pathIn ⟨"home"⟩)).1 = .ok {} ∧ Given disk run given ∧
    Engine.ofConfig { Settings.configFor {} run with
      ignorePatterns := (Settings.configFor {} run).ignorePatterns ++ given.ignorePatterns } =
        .ok engine ∧
    ((template ⟨"home"⟩ ⟨"root"⟩ run false).run ⟨disk, []⟩).2.disk =
      (engine.replace disk ⟨"root"⟩ given.withoutBlanks).disk ∧
    (engine.replace disk ⟨"root"⟩ given.withoutBlanks).disk.get? file =
      some (.file (Text.Utf8.encode "X [[B]]\n[[C")) := by
  intro folder file disk run given engine
  have hLive : IsLive run := ⟨rfl, rfl, rfl, rfl⟩
  have hFree : disk.LinkFree := by decide +kernel
  have hTarget : disk.hasFolder (Path.address ⟨"root"⟩) = true := by decide +kernel
  have hSettings : (Settings.load disk (Settings.pathIn ⟨"home"⟩)).1 = .ok {} := rfl
  have hGiven : Given disk run given :=
    toOption_eq_some_iff.mp (by decide +kernel :
      (Document.load disk ⟨"v.json"⟩).1.toOption = some given)
  have hEngine : Engine.ofConfig { Settings.configFor {} run with
      ignorePatterns := (Settings.configFor {} run).ignorePatterns ++ given.ignorePatterns } =
        .ok engine :=
    Engine.ofConfig_eq engine.sizeLimit_eq engine.opening_ne engine.closing_ne engine.suffix_ne
  have hLines : ∀ file ∈ engine.files given disk ⟨"root"⟩,
      ∀ span ∈ Span.scan (Text.Utf8.encode engine.config.opening)
        (Text.Utf8.encode engine.config.closing) file.content, Span.newline ∉ span.body := by
    decide +kernel
  obtain ⟨census, -, hRun, -, -, hSame⟩ := template_gives_what_was_given_iff false hLive hFree hTarget
    hSettings hGiven hEngine
  refine ⟨hLive, hFree, hTarget, hSettings, hGiven, hEngine, ?_, by decide +kernel⟩
  rw [hRun, hSame hLines]
  rfl

/-- The scan reads one long key over the end of a line, and the search the key behind it. -/
theorem template_drops_key_behind_line_end :
    let folder : Name := ⟨"root", by decide⟩
    let file : Location := [folder, ⟨"a.txt", by decide⟩]
    let disk := ((Disk.empty.put [folder] .folder).put file
      (.file (Text.Utf8.encode "[[a\n[[B]]"))).put [⟨"v.json", by decide⟩]
      (.file (Text.Utf8.encode "\x7b\"variables\":[\x7b\"key\":\"B\",\"value\":\"x\"\x7d]\x7d"))
    let given : Values := { assignments := [⟨"B", "x"⟩] }
    let engine : Engine := ⟨{}, 3145728, rfl, by decide, by decide, by decide⟩
    let report := Session.run ⟨"home"⟩ ["template", "--dir", "root", "-i", "v.json"] disk
    disk.LinkFree ∧ (Document.load disk ⟨"v.json"⟩).1.toOption = some given ∧
    report.ending = .completed ∧
    report.disk.get? file = some (.file (Text.Utf8.encode "[[a\n[[B]]")) ∧
    (engine.replace disk ⟨"root"⟩ given.withoutBlanks).disk.get? file =
      some (.file (Text.Utf8.encode "[[a\nx")) := by
  intro folder file disk given engine report
  exact ⟨by decide +kernel, by decide +kernel, by decide +kernel, by decide +kernel,
    by decide +kernel⟩

end Stencil.Session
