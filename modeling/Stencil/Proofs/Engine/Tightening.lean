import Mathlib.Data.List.Flatten
import Stencil.Proofs.Engine.Analysis
import Stencil.Proofs.Walk.Eligible

/-! Walks of one disk under plans of which one is tighter than the other. A tighter plan may leave
out whole folders, but what it visits is visited under the other plan as well, and in the same
order. -/

namespace Stencil

namespace Walk

/-- One plan lets no file pass that another one stops. -/
structure Plan.Tighter (plan plan' : Plan) : Prop where
  sizeLimit_le : plan.filter.sizeLimit ≤ plan'.filter.sizeLimit
  ignored : ∀ relative, plan'.filter.isIgnored relative = true →
    plan.filter.isIgnored relative = true
  suffix : plan'.suffix? = none ∨ plan.suffix? = plan'.suffix?

section Tighter

variable {plan plan' : Plan} {disk : Disk} {links : Nat} {path relative : Path}
  {folder : Location} {names : List Name} {file : Visited}

theorem Plan.tighter_ofPatterns {limit limit' : Nat} {patterns patterns' : List String}
    {suffix? suffix?' : Option String} (hLimit : limit ≤ limit') (hPatterns : patterns' ⊆ patterns)
    (hSuffix : suffix?' = none ∨ suffix? = suffix?') :
    Plan.Tighter ⟨.ofPatterns limit patterns, suffix?⟩ ⟨.ofPatterns limit' patterns', suffix?'⟩ :=
  ⟨hLimit, fun _ => Filter.isIgnored_mono hPatterns, hSuffix⟩

theorem Eligible.of_tighter (hTighter : plan.Tighter plan')
    (hFile : Eligible plan disk links path relative folder names file) :
    Eligible plan' disk links path relative folder names file := by
  have hSuffix : ∀ suffix ∈ plan'.suffix?, ∃ stem, stem ≠ "" ∧ file.name.text = stem ++ suffix := by
    intro suffix hMem
    rcases hTighter.suffix with hNone | hSame
    · rw [hNone] at hMem
      cases hMem
    · exact hFile.suffix suffix (hSame ▸ hMem)
  have hUnignored : plan'.filter.isIgnored file.relative = false := by
    rw [Bool.eq_false_iff]
    intro hIgnored
    have hAlso := hTighter.ignored _ hIgnored
    rw [hFile.unignored] at hAlso
    cases hAlso
  exact { hFile with
    suffix := hSuffix
    unignored := hUnignored
    size_le := hFile.size_le.trans hTighter.sizeLimit_le }

/-- The folders that the tighter plan leaves out hold no file that it would visit, so nothing but
files goes missing. -/
theorem visits_sublist (hTighter : plan.Tighter plan') (disk : Disk) (root : Path) :
    (visits plan disk root).Sublist (visits plan' disk root) := by
  classical
  have hMore : visits plan disk root ⊆ visits plan' disk root := by
    intro file hMem
    cases hRoot : disk.enter root.address with
    | error cause =>
        rw [visits, hRoot] at hMem
        exact absurd hMem List.not_mem_nil
    | ok inside =>
        obtain ⟨base, links⟩ := inside
        obtain ⟨names, hFile⟩ := (mem_visits_iff hRoot).mp hMem
        exact (mem_visits_iff hRoot).mpr ⟨names, hFile.of_tighter hTighter⟩
  have hFilter : (visits plan' disk root).filter (fun file => file ∈ visits plan disk root) =
      visits plan disk root := by
    refine visits_eq (fun file => ?_) (pairwise_sooner.filter _)
    rw [List.mem_filter, decide_eq_true_iff]
    exact and_iff_right_of_imp fun hMem => hMore hMem
  rw [← hFilter]
  exact List.filter_sublist

end Tighter

end Walk

namespace Engine

open Walk (Progress Visited)

theorem count_analyze_le {engine engine' : Engine} {disk : Disk} {root : Path} {base : Location}
    {links : Nat} {onlyTemplates onlyTemplates' : Bool}
    (hRoot : disk.enter root.address = .ok (base, links))
    (hOpening : engine.config.opening = engine'.config.opening)
    (hClosing : engine.config.closing = engine'.config.closing)
    (hTighter : (engine.analysisPlan onlyTemplates).Tighter
      (engine'.analysisPlan onlyTemplates')) :
    ∃ census census', (engine.analyze disk root onlyTemplates).result = .ok census ∧
      (engine'.analyze disk root onlyTemplates').result = .ok census' ∧
      ∀ key, census.count key ≤ census'.count key := by
  refine ⟨_, _, engine.result_analyze_of_enter hRoot onlyTemplates,
    engine'.result_analyze_of_enter hRoot onlyTemplates', fun key => ?_⟩
  have hKeys : engine.keys = engine'.keys := by
    funext content
    rw [keys, keys, hOpening, hClosing]
  rw [Census.count_recordAll Census.ascends_empty, Census.count_recordAll Census.ascends_empty,
    hKeys]
  exact Nat.add_le_add_left
    (((Walk.visits_sublist hTighter disk root).flatMap _).count_le key) _

/-- A tighter limit, more patterns to ignore and a suffix take files away from a walk and do nothing
else, also where they keep it out of whole folders. So a count that is tightened counts no key more
often. Patterns may come in any order and any number of times. -/
theorem tightening_takes_files_away {disk : Disk} {root : Path} {base : Location} {links : Nat}
    (hRoot : disk.enter root.address = .ok (base, links)) :
    (∀ (plan : Walk.Plan) {β : Type} (visit : Visited → Progress β → Walk.Result β),
      Walk.KeepsDisk visit → ∀ progress : Progress β, progress.disk = disk →
        Walk.Dispatches visit (Walk.visits plan disk root) progress
          (Walk.run plan root visit progress)) ∧
    (∀ {limit limit' : Nat} {patterns patterns' : List String} {suffix? suffix?' : Option String},
      limit ≤ limit' → patterns' ⊆ patterns → suffix?' = none ∨ suffix? = suffix?' →
        (Walk.visits ⟨.ofPatterns limit patterns, suffix?⟩ disk root).Sublist
          (Walk.visits ⟨.ofPatterns limit' patterns', suffix?'⟩ disk root)) ∧
    (∀ {engine engine' : Engine} {onlyTemplates onlyTemplates' : Bool},
      engine.config.opening = engine'.config.opening →
      engine.config.closing = engine'.config.closing →
      engine.sizeLimit ≤ engine'.sizeLimit →
      engine'.config.ignorePatterns ⊆ engine.config.ignorePatterns →
      onlyTemplates' = false ∨
        (onlyTemplates = onlyTemplates' ∧ engine.config.suffix = engine'.config.suffix) →
      ∃ census census', (engine.analyze disk root onlyTemplates).result = .ok census ∧
        (engine'.analyze disk root onlyTemplates').result = .ok census' ∧
        ∀ key, census.count key ≤ census'.count key) ∧
    ∀ {limit : Nat} {patterns patterns' : List String} (suffix? : Option String),
      patterns ⊆ patterns' → patterns' ⊆ patterns →
      ∀ {β : Type} (visit : Visited → Progress β → Walk.Result β) (progress : Progress β),
        Walk.run ⟨.ofPatterns limit patterns, suffix?⟩ root visit progress =
          Walk.run ⟨.ofPatterns limit patterns', suffix?⟩ root visit progress := by
  refine ⟨?_, ?_, ?_, ?_⟩
  · rintro plan β visit hKeeps progress rfl
    exact Walk.dispatches_run_of_keepsDisk hKeeps hRoot
  · intro limit limit' patterns patterns' suffix? suffix?' hLimit hPatterns hSuffix
    exact Walk.visits_sublist (Walk.Plan.tighter_ofPatterns hLimit hPatterns hSuffix) disk root
  · intro engine engine' onlyTemplates onlyTemplates' hOpening hClosing hLimit hPatterns hOnly
    refine count_analyze_le hRoot hOpening hClosing
      (Walk.Plan.tighter_ofPatterns hLimit hPatterns ?_)
    rcases hOnly with rfl | ⟨rfl, hSuffix⟩
    · exact .inl rfl
    · exact .inr (by rw [hSuffix])
  · intro limit patterns patterns' suffix? hPatterns hPatterns' β visit progress
    refine Walk.run_congr_plan ?_ ?_ root visit progress
    · exact Filter.check_congr hPatterns hPatterns'
    · rfl

/-- A link to a template is looked through once more, under a name that does not end with the
suffix, and a link to the folder above is not entered. The tighter count leaves out that link, an
ignored folder, and a file that is too large. -/
theorem tightening_takes_files_away_from_linked_folder :
    let inside (name : String) (proper : Name.isProper name = true) : Location :=
      [⟨"r", by decide⟩, ⟨name, proper⟩]
    let file (text : String) : Node := .file (Text.Utf8.encode text)
    let disk := [(inside "a.tpl" (by decide), file "[[A]] [[A]]"),
      (inside "b" (by decide), .link ⟨"a.tpl"⟩),
      (inside "c.tpl" (by decide), .file (Text.Utf8.encode "[[A]]" ++ List.replicate 1024 32)),
      (inside "Docs" (by decide), .folder),
      (inside "Docs" (by decide) ++ [⟨"d.tpl", by decide⟩], file "[[A]]"),
      (inside "e" (by decide), .link ⟨".."⟩), ([⟨"o", by decide⟩], file "[[A]]"),
      (inside "f" (by decide), .link ⟨"/o"⟩)].foldl
        (fun disk (location, node) => disk.put location node)
        (Disk.empty.put [⟨"r", by decide⟩] .folder)
    let tight : Engine := ⟨{ sizeLimit := "1 kb", ignorePatterns := ["x", " docs", "x"] }, 1024,
      rfl, by decide, by decide, by decide⟩
    let loose : Engine :=
      ⟨{ ignorePatterns := ["x"] }, 3145728, rfl, by decide, by decide, by decide⟩
    let root : Path := ⟨"r"⟩
    disk.enter root.address = .ok ([⟨"r", by decide⟩], 40) ∧
    (Walk.visits (tight.analysisPlan true) disk root).map (fun file => file.place.path.text) =
      ["r/a.tpl"] ∧
    (Walk.visits (loose.analysisPlan false) disk root).map (fun file => file.place.path.text) =
      ["r/a.tpl", "r/b", "r/c.tpl", "r/f", "r/Docs/d.tpl"] ∧
    (Walk.visits (tight.analysisPlan true) disk root).Sublist
      (Walk.visits (loose.analysisPlan false) disk root) ∧
    (match (tight.analyze disk root true).result, (loose.analyze disk root false).result with
      | .ok census, .ok census' => (census.count "A", census'.count "A")
      | _, _ => (0, 0)) = (2, 7) ∧
    ∃ census census', (tight.analyze disk root true).result = .ok census ∧
      (loose.analyze disk root false).result = .ok census' ∧
      ∀ key, census.count key ≤ census'.count key := by
  intro inside file disk tight loose root
  have hRoot : disk.enter root.address = .ok ([⟨"r", by decide⟩], 40) := by decide +kernel
  have hPatterns : loose.config.ignorePatterns ⊆ tight.config.ignorePatterns := by decide
  have hLimit : tight.sizeLimit ≤ loose.sizeLimit := by decide
  obtain ⟨-, hVisits, hCounts, -⟩ := tightening_takes_files_away hRoot
  refine ⟨hRoot, ?_, ?_, hVisits hLimit hPatterns (.inl rfl), ?_,
    hCounts rfl rfl hLimit hPatterns (.inl rfl)⟩
  · decide +kernel
  · decide +kernel
  · decide +kernel

end Engine

end Stencil
