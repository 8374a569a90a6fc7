import Stencil.Proofs.Engine.Analysis
import Stencil.Proofs.Engine.Discovered
import Stencil.Proofs.Session.Act
import Stencil.Session.Run

/-! The course of a run on a folder. All that is done before the passes either fails, for one of a
few reasons, or leads to an engine and to values for it. In both cases the disk is as it was, and
what a run leaves is what its passes leave. -/

namespace Stencil

/-- Empty texts count as not given, so that a choice is empty only if the standard is. -/
theorem firstGiven_ne {standard : String} (hStandard : standard ≠ "")
    (texts : List (Option String)) : firstGiven standard texts ≠ "" := by
  induction texts with
  | nil => exact hStandard
  | cons text texts ih =>
      cases text with
      | none => exact ih
      | some text =>
          rw [firstGiven]
          split
          · exact ih
          · next hText => simpa using hText

namespace Session

open Act

variable {home target : Path} {run : RunOptions} {disk : Disk} {config : Config} {given : Values}
  {engine : Engine} {census : Census}

/-- The values that a run is given. -/
def Given (disk : Disk) (run : RunOptions) (given : Values) : Prop :=
  match run.input with
  | none => given = {}
  | some input => (Document.load disk input).1 = .ok given

/-- Values come from the document that is named. -/
theorem given_iff {input : Path} (hInput : run.input = some input) :
    Given disk run given ↔ (Document.load disk input).1 = .ok given := by
  simp only [Given, hInput]

/-- The folder of a run is there, and its settings can be read, with a size limit that can. -/
structure Configured (home target : Path) (run : RunOptions) (disk : Disk) (config : Config) :
    Prop where
  folder : disk.hasFolder target.address = true
  settings : ∃ settings, (Settings.load disk (Settings.pathIn home)).1 = .ok settings ∧
    settings.configFor run = config
  sizeLimit : ∃ sizeLimit, SizeLimit.parse config.sizeLimit = .ok sizeLimit

/-- A run has read what it is given, and so has its engine. -/
structure Equipped (home target : Path) (run : RunOptions) (disk : Disk) (given : Values)
    (engine : Engine) : Prop where
  configured : ∃ config, Configured home target run disk config ∧
    engine.config = { config with ignorePatterns := config.ignorePatterns ++ given.ignorePatterns }
  given : Given disk run given

/-- A run has counted its placeholders, and has nothing to ask for. -/
structure Prepared (home target : Path) (run : RunOptions) (disk : Disk) (given : Values)
    (engine : Engine) (census : Census) : Prop where
  equipped : Equipped home target run disk given engine
  counted : (engine.analyze disk target run.onlyTemplates).result = .ok census
  unasked : census.isEmpty = true ∨ run.interactive = false

/-- Why a run fails before its passes. -/
inductive StopsEarly (home target : Path) (run : RunOptions) (disk : Disk) : Failure → Prop
  | noTarget (hTarget : disk.has target.address = false) :
      StopsEarly home target run disk (.noTarget target)
  | targetNotFolder (hTarget : disk.has target.address = true)
      (hFolder : disk.hasFolder target.address = false) :
      StopsEarly home target run disk (.targetNotFolder target)
  | settings {failure : Failure} (hFolder : disk.hasFolder target.address = true)
      (hSettings : (Settings.load disk (Settings.pathIn home)).1 = .error failure) :
      StopsEarly home target run disk failure
  | sizeLimit {settings : Settings} {fault : Fault}
      (hFolder : disk.hasFolder target.address = true)
      (hSettings : (Settings.load disk (Settings.pathIn home)).1 = .ok settings)
      (hSize : SizeLimit.parse (settings.configFor run).sizeLimit = .error fault) :
      StopsEarly home target run disk (.fault fault)
  | values {config : Config} {input : Path} {fault : Fault}
      (hConfigured : Configured home target run disk config) (hInput : run.input = some input)
      (hLoad : (Document.load disk input).1 = .error fault) :
      StopsEarly home target run disk (.valuesNotLoaded input)
  | analysis {given : Values} {engine : Engine} {fault : Fault}
      (hEquipped : Equipped home target run disk given engine)
      (hAnalysis : (engine.analyze disk target run.onlyTemplates).result = .error fault) :
      StopsEarly home target run disk (.fault fault)
  | prompt {given : Values} {engine : Engine} {census : Census}
      (hEquipped : Equipped home target run disk given engine)
      (hCensus : (engine.analyze disk target run.onlyTemplates).result = .ok census)
      (hFound : census.isEmpty = false) (hAsked : run.interactive = true) :
      StopsEarly home target run disk .noTerminal

/-- The disk that the passes of a run leave. Only a pass that came to the end is followed by
another. -/
def worked (engine : Engine) (target : Path) (run : RunOptions) (values : Values) (disk : Disk) :
    Disk :=
  let templates (disk : Disk) : Disk :=
    if run.processTemplates then (engine.materialize disk target values).disk else disk
  if run.onlyTemplates then templates disk
  else
    match (engine.replace disk target values).result with
    | .ok _ => templates (engine.replace disk target values).disk
    | .error _ => (engine.replace disk target values).disk

/-- Where the values go into place, the templates come after them, on the disk that they left. -/
theorem worked_of_ok {values : Values} {summary : Summary} (hOnly : run.onlyTemplates = false)
    (hSummary : (engine.replace disk target values).result = .ok summary) :
    worked engine target run values disk =
      if run.processTemplates then
        (engine.materialize (engine.replace disk target values).disk target values).disk
      else (engine.replace disk target values).disk := by
  simp only [worked, hOnly, hSummary, Bool.false_eq_true, if_false]

/-- The settings choose delimiters that are not empty, so a size limit is all that it takes. -/
theorem Configured.exists_engine (hConfigured : Configured home target run disk config)
    (ignorePatterns : List String) :
    ∃ engine : Engine, engine.config = { config with ignorePatterns := ignorePatterns } := by
  obtain ⟨settings, -, rfl⟩ := hConfigured.settings
  obtain ⟨sizeLimit, hSize⟩ := hConfigured.sizeLimit
  have hSuffix : (settings.configFor run).suffix ≠ "" := (by decide : ".tpl" ≠ "")
  exact ⟨⟨{ settings.configFor run with ignorePatterns := ignorePatterns }, sizeLimit, hSize,
    firstGiven_ne (by decide) _, firstGiven_ne (by decide) _, hSuffix⟩, rfl⟩

theorem Equipped.hasFolder (hEquipped : Equipped home target run disk given engine) :
    disk.hasFolder target.address = true := by
  obtain ⟨config, hConfigured, -⟩ := hEquipped.configured
  exact hConfigured.folder

/-- What an engine takes from the options of its run, whatever the settings say. -/
theorem Equipped.options_eq (hEquipped : Equipped home target run disk given engine) :
    engine.config.dryRun = run.dryRun ∧
      engine.config.strategy = if run.literal then .literal else .tokenized := by
  obtain ⟨config, hConfigured, hEngine⟩ := hEquipped.configured
  obtain ⟨settings, -, rfl⟩ := hConfigured.settings
  rw [hEngine]
  exact ⟨rfl, rfl⟩

/-- A count before a pass in place visits the files that the pass does. -/
theorem Equipped.files_eq_visits (hEquipped : Equipped home target run disk given engine) :
    engine.files given disk target =
      Walk.visits ⟨.ofPatterns engine.sizeLimit engine.config.ignorePatterns, none⟩ disk
        target := by
  obtain ⟨config, -, hEngine⟩ := hEquipped.configured
  refine Engine.files_eq_visits ?_
  rw [hEngine]
  exact List.subset_append_right _ _

/-- Nothing else can happen before the passes. -/
theorem stopsEarly_or_prepared (home target : Path) (run : RunOptions) (disk : Disk) :
    (∃ failure, StopsEarly home target run disk failure) ∨
      ∃ given engine census, Prepared home target run disk given engine census := by
  -- in the order of the run, so that each reason to stop knows what came before it
  cases hTarget : disk.has target.address with
  | false => exact .inl ⟨_, .noTarget hTarget⟩
  | true =>
  cases hFolder : disk.hasFolder target.address with
  | false => exact .inl ⟨_, .targetNotFolder hTarget hFolder⟩
  | true =>
  cases hSettings : (Settings.load disk (Settings.pathIn home)).1 with
  | error failure => exact .inl ⟨_, .settings hFolder hSettings⟩
  | ok settings =>
  cases hSize : SizeLimit.parse (settings.configFor run).sizeLimit with
  | error fault => exact .inl ⟨_, .sizeLimit hFolder hSettings hSize⟩
  | ok sizeLimit =>
  have hConfigured : Configured home target run disk (settings.configFor run) :=
    ⟨hFolder, ⟨settings, hSettings, rfl⟩, ⟨sizeLimit, hSize⟩⟩
  have hValues : (∃ failure, StopsEarly home target run disk failure) ∨
      ∃ given, Given disk run given := by
    cases hInput : run.input with
    | none => exact .inr ⟨{}, by simp only [Given, hInput]⟩
    | some input =>
        cases hLoad : (Document.load disk input).1 with
        | error fault => exact .inl ⟨_, .values hConfigured hInput hLoad⟩
        | ok given => exact .inr ⟨given, (given_iff hInput).mpr hLoad⟩
  obtain hStops | ⟨given, hGiven⟩ := hValues
  · exact .inl hStops
  obtain ⟨engine, hEngine⟩ := hConfigured.exists_engine
    ((settings.configFor run).ignorePatterns ++ given.ignorePatterns)
  have hEquipped : Equipped home target run disk given engine :=
    ⟨⟨_, hConfigured, hEngine⟩, hGiven⟩
  cases hCensus : (engine.analyze disk target run.onlyTemplates).result with
  | error fault => exact .inl ⟨_, .analysis hEquipped hCensus⟩
  | ok census =>
  cases hFound : census.isEmpty with
  | true => exact .inr ⟨given, engine, census, hEquipped, hCensus, .inl hFound⟩
  | false =>
  cases hAsked : run.interactive with
  | true => exact .inl ⟨_, .prompt hEquipped hCensus hFound hAsked⟩
  | false => exact .inr ⟨given, engine, census, hEquipped, hCensus, .inr hAsked⟩

theorem leads_givenValues (sink : Sink) (hGiven : Given disk run given) :
    Leads (givenValues sink run) disk given disk := by
  unfold givenValues
  cases hInput : run.input with
  | none =>
      simp only [Given, hInput] at hGiven
      rw [hGiven]
      exact leads_pure _
  | some input =>
      rw [given_iff hInput] at hGiven
      refine leads_disk.bind ?_
      cases hLoad : Document.load disk input with
      | mk result notices =>
          rw [hLoad] at hGiven
          subst hGiven
          exact (leads_write _).bind (leads_pure given)

theorem fails_givenValues (sink : Sink) {input : Path} {fault : Fault}
    (hInput : run.input = some input) (hLoad : (Document.load disk input).1 = .error fault) :
    Fails (givenValues sink run) disk (.valuesNotLoaded input) disk := by
  unfold givenValues
  rw [hInput]
  refine leads_disk.fails_bind ?_
  cases hResult : Document.load disk input with
  | mk result notices =>
      rw [hResult] at hLoad
      subst hLoad
      exact (leads_write _).fails_bind (fails_throw _)

theorem leads_engineFor (sink : Sink)
    (hEngine : engine.config =
      { config with ignorePatterns := config.ignorePatterns ++ given.ignorePatterns }) :
    Leads (engineFor sink config given) disk engine disk := by
  have hMade : Engine.ofConfig
      { config with ignorePatterns := config.ignorePatterns ++ given.ignorePatterns } =
        .ok engine := by
    rw [← hEngine]
    exact Engine.ofConfig_eq engine.sizeLimit_eq engine.opening_ne engine.closing_ne
      engine.suffix_ne
  unfold engineFor
  refine (leads_orFault hMade).bind <| (leads_write _).bind ?_
  split
  · exact (leads_write _).bind (leads_pure engine)
  · exact leads_pure engine

theorem leads_analyze (sink : Sink) (target : Path) {onlyTemplates : Bool}
    (hCensus : (engine.analyze disk target onlyTemplates).result = .ok census) :
    Leads (perform sink fun disk => engine.analyze disk target onlyTemplates) disk census disk := by
  have hPerform := leads_perform sink (fun disk => engine.analyze disk target onlyTemplates) hCensus
  rw [engine.disk_analyze] at hPerform
  exact hPerform

theorem fails_analyze (sink : Sink) (target : Path) {onlyTemplates : Bool} {fault : Fault}
    (hAnalysis : (engine.analyze disk target onlyTemplates).result = .error fault) :
    Fails (perform sink fun disk => engine.analyze disk target onlyTemplates) disk (.fault fault)
      disk := by
  have hPerform :=
    fails_perform sink (fun disk => engine.analyze disk target onlyTemplates) hAnalysis
  rw [engine.disk_analyze] at hPerform
  exact hPerform

/-- Counting goes on to the passes where nobody has to be asked. -/
theorem leads_discover (sink : Sink) (target : Path) (given : Values)
    (hCensus : (engine.analyze disk target run.onlyTemplates).result = .ok census)
    (hUnasked : census.isEmpty = true ∨ run.interactive = false) :
    Leads (discover sink engine target run given) disk census disk := by
  have hShow : Leads (showDiscovered run census given) disk () disk := by
    unfold showDiscovered
    cases hFound : census.isEmpty with
    | true => exact leads_pure ()
    | false =>
        rw [or_iff_right (by simp [hFound])] at hUnasked
        rw [hUnasked]
        exact (leads_write _).bind <| (leads_write _).bind <| leads_pure ()
  exact (leads_analyze sink target hCensus).bind <| hShow.bind <| leads_pure census

/-- A run that would have to ask ends after counting, with the disk as it was. -/
theorem fails_discover (sink : Sink) (target : Path) (given : Values)
    (hCensus : (engine.analyze disk target run.onlyTemplates).result = .ok census)
    (hFound : census.isEmpty = false) (hAsked : run.interactive = true) :
    Fails (discover sink engine target run given) disk .noTerminal disk := by
  have hShow : Fails (showDiscovered run census given) disk .noTerminal disk := by
    unfold showDiscovered
    rw [hFound, hAsked]
    exact (leads_write _).fails_bind <| (leads_write _).fails_bind <| fails_throw _
  exact (leads_analyze sink target hCensus).fails_bind <| hShow.bind _

/-- The pass over the values leaves its disk and goes on. -/
theorem leads_replacePass (sink : Sink) (target : Path) (values : Values)
    {summary : Summary} (hSummary : (engine.replace disk target values).result = .ok summary) :
    Leads (replacePass sink engine target values) disk ()
      (engine.replace disk target values).disk :=
  (leads_perform sink (fun disk => engine.replace disk target values) hSummary).bind <|
    (leads_write _).bind <| (leads_write _).bind <| (leads_write _).bind <| leads_write _

theorem fails_replacePass (sink : Sink) (target : Path) (values : Values) {fault : Fault}
    (hFault : (engine.replace disk target values).result = .error fault) :
    Fails (replacePass sink engine target values) disk (.fault fault)
      (engine.replace disk target values).disk :=
  (fails_perform sink (fun disk => engine.replace disk target values) hFault).bind _

/-- The pass over the templates is the last, so that only its disk counts. -/
theorem leaves_templatePass (sink : Sink) (engine : Engine) (target : Path) (values : Values) :
    Leaves (templatePass sink engine target values) disk
      (engine.materialize disk target values).disk :=
  (leaves_perform sink fun disk => engine.materialize disk target values).bind fun _ =>
    ((leads_write _).bind <| (leads_write _).bind <| leads_write _).leaves

theorem leads_loadSettings {settings : Settings}
    (hSettings : (Settings.load disk (Settings.pathIn home)).1 = .ok settings) :
    Leads (loadSettings home) disk settings disk := by
  unfold loadSettings
  refine leads_disk.bind ?_
  cases hLoad : Settings.load disk (Settings.pathIn home) with
  | mk result notices =>
      rw [hLoad] at hSettings
      exact (leads_write _).bind (leads_orFail hSettings)

theorem fails_loadSettings {failure : Failure}
    (hSettings : (Settings.load disk (Settings.pathIn home)).1 = .error failure) :
    Fails (loadSettings home) disk failure disk := by
  unfold loadSettings
  refine leads_disk.fails_bind ?_
  cases hLoad : Settings.load disk (Settings.pathIn home) with
  | mk result notices =>
      rw [hLoad] at hSettings
      exact (leads_write _).fails_bind (fails_orFail hSettings)

theorem leads_checkedConfig {settings : Settings} {sizeLimit : Nat}
    (hSize : SizeLimit.parse (settings.configFor run).sizeLimit = .ok sizeLimit) :
    Leads (checkedConfig settings run) disk (settings.configFor run) disk := by
  unfold checkedConfig
  exact (leads_orFault hSize).bind (leads_pure _)

theorem fails_checkedConfig {settings : Settings} {fault : Fault}
    (hSize : SizeLimit.parse (settings.configFor run).sizeLimit = .error fault) :
    Fails (checkedConfig settings run) disk (.fault fault) disk := by
  unfold checkedConfig
  exact (fails_orFault hSize).bind _

/-- Behind the checks of the target, a failure to read the settings or to work is the run's. -/
theorem fails_template_of_folder (verbose : Bool) {failure : Failure}
    (hFolder : disk.hasFolder target.address = true)
    (hRest : Fails (loadSettings home >>= fun settings => checkedConfig settings run >>=
      fun config => work target config run verbose) disk failure disk) :
    Fails (template home target run verbose) disk failure disk := by
  unfold template
  refine (leads_write _).fails_bind <| leads_disk.fails_bind ?_
  simp only [hFolder, Disk.has_of_hasFolder hFolder, Bool.not_true, Bool.false_eq_true, if_false]
  exact hRest

theorem Configured.fails_template (hConfigured : Configured home target run disk config)
    {verbose : Bool} {failure : Failure}
    (hWork : Fails (work target config run verbose) disk failure disk) :
    Fails (template home target run verbose) disk failure disk := by
  obtain ⟨settings, hSettings, rfl⟩ := hConfigured.settings
  obtain ⟨sizeLimit, hSize⟩ := hConfigured.sizeLimit
  exact fails_template_of_folder verbose hConfigured.folder <|
    (leads_loadSettings hSettings).fails_bind <| (leads_checkedConfig hSize).fails_bind hWork

theorem Configured.leaves_template (hConfigured : Configured home target run disk config)
    {verbose : Bool} {after : Disk} (hWork : Leaves (work target config run verbose) disk after) :
    Leaves (template home target run verbose) disk after := by
  obtain ⟨settings, hSettings, rfl⟩ := hConfigured.settings
  obtain ⟨sizeLimit, hSize⟩ := hConfigured.sizeLimit
  unfold template
  refine (leads_write _).leaves_bind <| leads_disk.leaves_bind ?_
  simp only [hConfigured.folder, Disk.has_of_hasFolder hConfigured.folder, Bool.not_true,
    Bool.false_eq_true, if_false]
  exact (leads_loadSettings hSettings).leaves_bind <|
    (leads_checkedConfig hSize).leaves_bind hWork

theorem Equipped.fails_template (hEquipped : Equipped home target run disk given engine)
    (verbose : Bool) {failure : Failure} (hDiscover : ∀ sink,
      Fails (discover sink engine target run given) disk failure disk) :
    Fails (template home target run verbose) disk failure disk := by
  obtain ⟨config, hConfigured, hEngine⟩ := hEquipped.configured
  refine hConfigured.fails_template ?_
  unfold work
  exact (leads_givenValues _ hEquipped.given).fails_bind <|
    (leads_engineFor _ hEngine).fails_bind <| (hDiscover _).bind _

/-- A run that stops early leaves the disk as it is. -/
theorem fails_template (verbose : Bool) {failure : Failure}
    (hStops : StopsEarly home target run disk failure) :
    Fails (template home target run verbose) disk failure disk := by
  cases hStops with
  | noTarget hTarget =>
      unfold template
      refine (leads_write _).fails_bind <| leads_disk.fails_bind ?_
      simp only [hTarget, Bool.not_false, if_true]
      exact (fails_throw _).bind _
  | targetNotFolder hTarget hFolder =>
      unfold template
      refine (leads_write _).fails_bind <| leads_disk.fails_bind ?_
      simp only [hTarget, hFolder, Bool.not_true, Bool.not_false, Bool.false_eq_true, if_false,
        if_true]
      exact (fails_throw _).bind _
  | settings hFolder hSettings =>
      exact fails_template_of_folder verbose hFolder ((fails_loadSettings hSettings).bind _)
  | sizeLimit hFolder hSettings hSize =>
      exact fails_template_of_folder verbose hFolder <|
        (leads_loadSettings hSettings).fails_bind <| (fails_checkedConfig hSize).bind _
  | values hConfigured hInput hLoad =>
      exact hConfigured.fails_template ((fails_givenValues _ hInput hLoad).bind _)
  | analysis hEquipped hAnalysis =>
      refine hEquipped.fails_template verbose fun sink => ?_
      exact (fails_analyze sink target hAnalysis).bind _
  | prompt hEquipped hCensus hFound hAsked =>
      refine hEquipped.fails_template verbose fun sink => ?_
      exact fails_discover sink target _ hCensus hFound hAsked

/-- A run that does not stop early leaves what its passes leave. -/
theorem Prepared.leaves_template (hPrepared : Prepared home target run disk given engine census)
    (verbose : Bool) :
    Leaves (template home target run verbose) disk
      (worked engine target run (Discovery.valuesFor census given) disk) := by
  obtain ⟨config, hConfigured, hEngine⟩ := hPrepared.equipped.configured
  refine hConfigured.leaves_template ?_
  unfold work
  refine (leads_givenValues _ hPrepared.equipped.given).leaves_bind <|
    (leads_engineFor _ hEngine).leaves_bind <|
    (leads_discover _ target given hPrepared.counted hPrepared.unasked).leaves_bind ?_
  have hTemplates (disk : Disk) : Leaves (if run.processTemplates then
      templatePass (sinkFor run verbose) engine target (Discovery.valuesFor census given)
      else pure ()) disk (if run.processTemplates then
        (engine.materialize disk target (Discovery.valuesFor census given)).disk else disk) := by
    cases run.processTemplates with
    | true => exact leaves_templatePass _ engine target _
    | false => exact (leads_pure ()).leaves
  unfold worked
  cases hOnly : run.onlyTemplates with
  | true => exact hTemplates disk
  | false =>
      cases hResult : (engine.replace disk target (Discovery.valuesFor census given)).result with
      | ok summary =>
          simp only [Bool.not_false, if_true, Bool.false_eq_true, if_false]
          exact (leads_replacePass _ target _ hResult).leaves_bind (hTemplates _)
      | error fault =>
          simp only [Bool.not_false, if_true, Bool.false_eq_true, if_false]
          exact ((fails_replacePass _ target _ hResult).bind _).leaves

section Arguments

variable {arguments : List String} {verbose quiet : Bool} {after : Disk}
  (hParse : Invocation.parse arguments = .ok ⟨.template target run, verbose, quiet⟩)

include hParse

/-- What carrying out the command leaves is what the whole run leaves. -/
theorem disk_run (hTemplate : Leaves (template home target run verbose) disk after) :
    (Session.run home arguments disk).disk = after := by
  have hLeaves : Leaves (carryOut home ⟨.template target run, verbose, quiet⟩) disk after :=
    (leads_write _).leaves_bind <| hTemplate.bind fun _ => (leads_write _).leaves
  rw [Session.run, hParse]
  exact hLeaves []

/-- A command that fails is how the whole run ends. -/
theorem run_fails {failure : Failure}
    (hTemplate : Fails (template home target run verbose) disk failure after) :
    (Session.run home arguments disk).ending = .failed failure ∧
      (Session.run home arguments disk).disk = after := by
  have hFails : Fails (carryOut home ⟨.template target run, verbose, quiet⟩) disk failure after :=
    (leads_write _).fails_bind <| hTemplate.bind _
  obtain ⟨outputs, hRun⟩ := hFails []
  simp only [Session.run, hParse, runInvocation, hRun, and_self]

end Arguments

end Session

end Stencil
