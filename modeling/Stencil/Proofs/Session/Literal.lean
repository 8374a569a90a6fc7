import Stencil.Proofs.Command.Flag
import Stencil.Proofs.Engine.TwoPasses
import Stencil.Proofs.Session.Preparation
import Stencil.Proofs.Substitution.Strategies
import Stencil.Proofs.Survey.Keys

/-! What a run in literal mode puts in place. A count goes by base keys and a literal substitution
by whole ones, one after the other, so a key that no count can report is dropped, and the order in
which the keys were given is not the one in which they are taken. On tidy drafts neither matters. -/

namespace Stencil

theorem Discovery.assignments_valuesFor_subset (census : Census) (given : Values) :
    (valuesFor census given).assignments ⊆ given.assignments := by
  intro assignment hMem
  rw [valuesFor] at hMem
  split at hMem
  · exact hMem
  · obtain ⟨key, -, hKey⟩ := List.mem_filterMap.mp hMem
    obtain ⟨value, hValue, rfl⟩ := Option.map_eq_some_iff.mp hKey
    rw [value?, Option.filter_eq_some_iff] at hValue
    obtain ⟨⟨_, _⟩, hAssigned, rfl, rfl⟩ :=
      Substitution.Literal.exists_assignment (Table.mem_entries_of_get? hValue.1)
    exact hAssigned

namespace Engine

open Substitution
open Walk (Visited)

variable {engine : Engine} {disk : Disk} {root : Path}

theorem substitute_literal (values : Values) (content : Bytes)
    (hStrategy : engine.config.strategy = .literal) :
    engine.substitute values content =
      Literal.substitute engine.config.opening engine.config.closing engine.config.replacements
        values content := by
  rw [substitute, hStrategy]

/-- Files that are tidy drafts, and values that put no delimiter into them. -/
structure OnDrafts (engine : Engine) (given : Values) (files : List Visited) : Prop where
  separate : Separate engine.config.opening engine.config.closing
  keys : ∀ assignment ∈ given.assignments,
    PlainKey engine.config.opening engine.config.closing assignment.key
  values : ∀ assignment ∈ given.assignments,
    Clear engine.config.opening engine.config.closing (Text.Utf8.encode assignment.value)
  drafts : ∀ file ∈ files, ∃ draft : Draft,
    draft.Tidy engine.config.opening engine.config.closing ∧
      file.content = draft.render engine.config.opening engine.config.closing

/-- In a draft whose keys are all reported, no key is dropped that could be found, and the order of
the keys is all one. -/
theorem OnDrafts.content_eq {given : Values} {files : List Visited}
    (hOn : OnDrafts engine given files) (hStrategy : engine.config.strategy = .literal)
    {file : Visited} (hFile : file ∈ files) {census : Census}
    (hReported : ∀ key ∈ engine.keys file.content, key ∈ census.keys) :
    (engine.substitute (Discovery.valuesFor census given) file.content).content =
      (engine.substitute given.withoutBlanks file.content).content := by
  obtain ⟨draft, hTidy, hContent⟩ := hOn.drafts file hFile
  rw [Engine.keys, hContent, Survey.usable_render hOn.separate hTidy] at hReported
  rw [hContent]
  have hRender {values : Values} (hSubset : values.assignments ⊆ given.assignments) :
      (engine.substitute values
          (draft.render engine.config.opening engine.config.closing)).content =
        (draft.fill values.effective.get?).render engine.config.opening
          engine.config.closing := by
    rw [substitute_literal values _ hStrategy, Literal.substitute_render hOn.separate _
      (fun assignment hMem => hOn.keys assignment (hSubset hMem))
      (fun assignment hMem => hOn.values assignment (hSubset hMem)) hTidy]
  rw [hRender (Discovery.assignments_valuesFor_subset census given),
    hRender List.filter_sublist.subset]
  congr 1
  refine Draft.fill_congr fun key hKey => ?_
  have hMem := hReported key hKey
  have hFound : census.isEmpty = false := by
    refine Bool.eq_false_iff.mpr fun hEmpty => ?_
    rw [Census.isEmpty_iff_keys.mp hEmpty] at hMem
    exact absurd hMem List.not_mem_nil
  rw [Discovery.get?_valuesFor, hFound, if_neg Bool.false_ne_true, if_pos hMem,
    Values.get?_withoutBlanks]

end Engine

namespace Session

open Substitution

variable {home target : Path} {run : RunOptions} {disk : Disk} {given : Values} {engine : Engine}

/-- A run on a disk without links comes past its count, which reports all keys of its files. -/
theorem Equipped.exists_census (hEquipped : Equipped home target run disk given engine)
    (hFree : disk.LinkFree) (hOnly : run.onlyTemplates = false) :
    ∃ census, (engine.analyze disk target run.onlyTemplates).result = .ok census ∧
      census.Ascends ∧ ∀ key, key ∈ census.keys ↔
        ∃ file ∈ engine.files given disk target, key ∈ engine.keys file.content := by
  refine ⟨_, hOnly ▸ engine.result_analyze hFree hEquipped.hasFolder,
    Census.ascends_recordAll _ Census.ascends_empty, fun key => ?_⟩
  rw [Census.mem_keys_recordAll, hEquipped.files_eq_visits]
  simp [Census.empty, Census.keys]

/-- A live run in literal mode puts in place, of what it was given, the keys that were reported, in
ascending order, or all of it if no key was. This is what would come of all that was given less the
blanks if each file gets the same content from both, as it does where all of it is reported and was
given in ascending order, and where all files are tidy drafts. -/
theorem literal_run_applies_reported_keys (home : Path) {disk : Disk} {arguments : List String}
    {target : Path} {run : RunOptions} {verbose quiet : Bool} {given : Values} {engine : Engine}
    (hParse : Invocation.parse arguments = .ok ⟨.template target run, verbose, quiet⟩)
    (hLiteral : "--literal" ∈ arguments) (hLive : "--dry-run" ∉ arguments)
    (hAll : "--only-templates" ∉ arguments) (hUnasked : run.interactive = false)
    (hFree : disk.LinkFree) (hEquipped : Equipped home target run disk given engine) :
    ∃ census, (engine.analyze disk target false).result = .ok census ∧
      let values := Discovery.valuesFor census given
      let replaced := engine.replace disk target values
      let direct := engine.replace disk target given.withoutBlanks
      (Session.run home arguments disk).disk =
        (if run.processTemplates then (engine.materialize replaced.disk target values).disk
          else replaced.disk) ∧
      (census.isEmpty = true → values = given) ∧
      (census.isEmpty = false → Discovery.Sifted census given values ∧
        (∀ key, Literal.isWrapped engine.config.opening engine.config.closing key = true ∨
          ':' ∈ key.toList → values.effective.get? key = none) ∧
        (given.withoutBlanks.effective.keys.Pairwise (· < ·) →
          (∀ key ∈ given.withoutBlanks.effective.keys, key ∈ census.keys) →
            replaced = direct)) ∧
      ((∀ location, replaced.disk.get? location = direct.disk.get? location) ↔
        ∀ file ∈ engine.files given disk target,
          (engine.substitute values file.content).content =
            (engine.substitute given.withoutBlanks file.content).content) ∧
      (engine.OnDrafts given (engine.files given disk target) →
        ∀ location, replaced.disk.get? location = direct.disk.get? location) := by
  have hFlags := Invocation.setBy_of_parse hParse
  have hOnly : run.onlyTemplates = false :=
    Bool.eq_false_iff.mpr (mt hFlags.onlyTemplates.mp hAll)
  obtain ⟨hDry, hStrategy⟩ := hEquipped.options_eq
  rw [Bool.eq_false_iff.mpr (mt hFlags.dryRun.mp hLive)] at hDry
  rw [hFlags.literal.mpr hLiteral, if_pos rfl] at hStrategy
  have hFolder := hEquipped.hasFolder
  obtain ⟨census, hCensus, hAscends, hKeys⟩ := hEquipped.exists_census hFree hOnly
  have hPrepared : Prepared home target run disk given engine census :=
    ⟨hEquipped, hCensus, .inr hUnasked⟩
  refine ⟨census, hOnly ▸ hCensus, ?_⟩
  intro values replaced direct
  have hPatterns : values.ignorePatterns = given.withoutBlanks.ignorePatterns :=
    Discovery.ignorePatterns_valuesFor census given
  have hTree := Engine.sameTree_iff hDry hFree hFolder hPatterns
  rw [Engine.files_valuesFor] at hTree
  refine ⟨?_, fun hNone => if_pos hNone, fun hFound => ?_, hTree,
    fun hOn => hTree.mpr fun file hFile => ?_⟩
  · obtain ⟨summary, hSummary, -⟩ := engine.result_replace values hFree hFolder
    rw [← worked_of_ok hOnly hSummary]
    exact disk_run hParse (hPrepared.leaves_template verbose)
  · have hSifted := Discovery.sifted_valuesFor hAscends hFound given
    refine ⟨hSifted, fun key hKey => ?_, fun hInOrder hReported => ?_⟩
    · -- a reported key stands in some file, and no count makes such a key of what stands there
      refine hSifted.get?_of_unreported fun hMem => ?_
      obtain ⟨file, -, hUsable⟩ := (hKeys key).mp hMem
      obtain ⟨hWrapped, hColon⟩ := Survey.not_wrapped_of_usable hUsable
      rcases hKey with hKey | hKey
      · rw [hWrapped] at hKey
        cases hKey
      · exact hColon hKey
    · have hSame := hSifted.effective_eq_iff.mpr ⟨hInOrder, hReported⟩
      refine Engine.replace_congr hFree hPatterns fun file _ => ?_
      rw [Engine.substitute_literal _ _ hStrategy, Engine.substitute_literal _ _ hStrategy,
        Literal.substitute, Literal.substitute, hSame, hSifted.replacements_eq]
      rfl
  · exact hOn.content_eq hStrategy hFile fun key hKey => (hKeys key).mpr ⟨file, hFile, hKey⟩

/-- Of four keys one is not reported and one is blank, and the others are given out of order. -/
theorem literal_run_applies_reported_keys_on_draft :
    let folder : Name := ⟨"root", by decide⟩
    let file : Location := [folder, ⟨"a.txt", by decide⟩]
    let disk := ((Disk.empty.put [folder] .folder).put file
      (.file (Text.Utf8.encode "[[B]]-[[A]][[D]]"))).put [⟨"v.json", by decide⟩]
      (.file (Text.Utf8.encode ("\x7b\"variables\":[[\"B\",\"y\"],[\"A\",\"x\"]," ++
        "[\"C\",\"z\"],[\"D\",\"\"]]\x7d")))
    let arguments := ["template", "--dir", "root", "-i", "v.json", "--literal"]
    let run : RunOptions := { input := some ⟨"v.json"⟩, literal := true }
    let given : Values := { assignments := [⟨"B", "y"⟩, ⟨"A", "x"⟩, ⟨"C", "z"⟩, ⟨"D", ""⟩] }
    let engine : Engine := ⟨{ strategy := .literal }, 3145728, rfl, by decide, by decide, by decide⟩
    Invocation.parse arguments = .ok ⟨.template ⟨"root"⟩ run, false, false⟩ ∧
    "--literal" ∈ arguments ∧ "--dry-run" ∉ arguments ∧ "--only-templates" ∉ arguments ∧
    run.interactive = false ∧ disk.LinkFree ∧ Equipped ⟨"home"⟩ ⟨"root"⟩ run disk given engine ∧
    (Session.run ⟨"home"⟩ arguments disk).disk.get? file =
      some (.file (Text.Utf8.encode "y-x[[D]]")) := by
  intro folder file disk arguments run given engine
  have hParse : Invocation.parse arguments = .ok ⟨.template ⟨"root"⟩ run, false, false⟩ := by
    decide +kernel
  have hFree : disk.LinkFree := by decide +kernel
  have hGiven : Given disk run given :=
    toOption_eq_some_iff.mp (by decide +kernel :
      (Document.load disk ⟨"v.json"⟩).1.toOption = some given)
  have hConfigured : Configured ⟨"home"⟩ ⟨"root"⟩ run disk { strategy := .literal } :=
    ⟨by decide +kernel, ⟨{}, rfl, rfl⟩, ⟨3145728, rfl⟩⟩
  have hEquipped : Equipped ⟨"home"⟩ ⟨"root"⟩ run disk given engine :=
    ⟨⟨_, hConfigured, rfl⟩, hGiven⟩
  let draft : Draft := [.span "B", .text (Text.Utf8.encode "-"), .span "A", .span "D"]
  have hTidy : draft.Tidy "[[" "]]" := by decide +kernel
  have hContents : ∀ file ∈ engine.files given disk ⟨"root"⟩,
      file.content = draft.render "[[" "]]" := by decide +kernel
  have hOn : engine.OnDrafts given (engine.files given disk ⟨"root"⟩) :=
    ⟨⟨by decide, by decide, by decide +kernel⟩, by decide +kernel, by decide +kernel,
      fun file hFile => ⟨draft, hTidy, hContents file hFile⟩⟩
  obtain ⟨census, -, hRun, -, -, -, hSame⟩ := literal_run_applies_reported_keys ⟨"home"⟩ hParse
    (by decide) (by decide) (by decide) rfl hFree hEquipped
  refine ⟨hParse, by decide, by decide, by decide, rfl, hFree, hEquipped, ?_⟩
  rw [hRun, if_neg (by decide), hSame hOn]
  decide +kernel

/-- The scan reports `A`, `B`, `D` and `E`, and so neither the key with a colon nor the wrapped one.
`A` is taken before `E`, which was given first. -/
theorem literal_run_drops_and_reorders :
    let folder : Name := ⟨"root", by decide⟩
    let file : Location := [folder, ⟨"a.txt", by decide⟩]
    let disk := ((Disk.empty.put [folder] .folder).put file
      (.file (Text.Utf8.encode "[[A]] [[B:c]] [[D]] [[E]]"))).put [⟨"v.json", by decide⟩]
      (.file (Text.Utf8.encode ("\x7b\"variables\":[[\"E\",\"e\"],[\"A\",\"[[E]]\"]," ++
        "[\"B:c\",\"y\"],[\"[[D]]\",\"z\"]]\x7d")))
    let arguments := ["-q", "template", "--dir", "root", "-i", "v.json", "--literal"]
    let run : RunOptions := { input := some ⟨"v.json"⟩, literal := true }
    let given : Values :=
      { assignments := [⟨"E", "e"⟩, ⟨"A", "[[E]]"⟩, ⟨"B:c", "y"⟩, ⟨"[[D]]", "z"⟩] }
    let engine : Engine := ⟨{ strategy := .literal }, 3145728, rfl, by decide, by decide, by decide⟩
    let report := Session.run ⟨"home"⟩ arguments disk
    Invocation.parse arguments = .ok ⟨.template ⟨"root"⟩ run, false, true⟩ ∧ disk.LinkFree ∧
    Equipped ⟨"home"⟩ ⟨"root"⟩ run disk given engine ∧ report.ending = .completed ∧
    report.disk.get? file = some (.file (Text.Utf8.encode "e [[B:c]] [[D]] e")) ∧
    (engine.replace disk ⟨"root"⟩ given.withoutBlanks).disk.get? file =
      some (.file (Text.Utf8.encode "[[E]] y z e")) := by
  intro folder file disk arguments run given engine report
  have hGiven : Given disk run given :=
    toOption_eq_some_iff.mp (by decide +kernel :
      (Document.load disk ⟨"v.json"⟩).1.toOption = some given)
  have hConfigured : Configured ⟨"home"⟩ ⟨"root"⟩ run disk { strategy := .literal } :=
    ⟨by decide +kernel, ⟨{}, rfl, rfl⟩, ⟨3145728, rfl⟩⟩
  have hReport : report.ending = .completed ∧
      report.disk.get? file = some (.file (Text.Utf8.encode "e [[B:c]] [[D]] e")) := by
    decide +kernel
  exact ⟨by decide +kernel, by decide +kernel, ⟨⟨_, hConfigured, rfl⟩, hGiven⟩, hReport.1,
    hReport.2, by decide +kernel⟩

end Session

end Stencil
