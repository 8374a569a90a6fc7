import Stencil.Filter
import Stencil.Proofs.Path
import Stencil.Proofs.Text.Case

/-! What passes a filter, and filters that differ only in how often a pattern is written. What lies
in an ignored folder is ignored itself. -/

namespace Stencil.Filter

theorem check_folder_eq_eligible_iff {filter : Filter} {relative : Path} {size : Nat} :
    filter.check relative true size = .eligible ↔
      filter.isIgnored relative = false ∧
        isSkippedFolder (relative.fileName?.getD "") = false := by
  unfold check
  cases filter.isIgnored relative <;> cases isSkippedFolder (relative.fileName?.getD "") <;> simp

/-- A file is eligible if no pattern takes it away and it is not too large. -/
theorem check_file_eq_eligible_iff {filter : Filter} {relative : Path} {size : Nat} :
    filter.check relative false size = .eligible ↔
      filter.isIgnored relative = false ∧ size ≤ filter.sizeLimit := by
  unfold check
  cases filter.isIgnored relative with
  | true => simp
  | false =>
      by_cases hLarge : filter.sizeLimit < size
      · simp [hLarge]
      · simp [hLarge, Nat.le_of_not_lt hLarge]

/-- A path is ignored for a pattern that occurs in it, each in the form in which it is compared.
Blank patterns count for nothing. -/
theorem isIgnored_ofPatterns (sizeLimit : Nat) (patterns : List String) (relative : Path) :
    (ofPatterns sizeLimit patterns).isIgnored relative = true ↔
      ∃ pattern ∈ patterns, normalize pattern ≠ "" ∧
        Occurrence.occursIn (normalize pattern).toList (comparable relative).toList = true := by
  simp [isIgnored, ofPatterns]

/-- More patterns ignore more. -/
theorem isIgnored_mono {sizeLimit sizeLimit' : Nat} {patterns patterns' : List String}
    (hPatterns : patterns ⊆ patterns') {relative : Path}
    (hIgnored : (ofPatterns sizeLimit patterns).isIgnored relative = true) :
    (ofPatterns sizeLimit' patterns').isIgnored relative = true := by
  rw [isIgnored_ofPatterns] at hIgnored ⊢
  obtain ⟨pattern, hMem, hOccurs⟩ := hIgnored
  exact ⟨pattern, hPatterns hMem, hOccurs⟩

/-- In which order patterns come, and how often each of them, is no matter. -/
theorem check_congr {sizeLimit : Nat} {patterns patterns' : List String}
    (hPatterns : patterns ⊆ patterns') (hPatterns' : patterns' ⊆ patterns) :
    (ofPatterns sizeLimit patterns).check = (ofPatterns sizeLimit patterns').check := by
  have hIgnored (relative : Path) : (ofPatterns sizeLimit patterns).isIgnored relative =
      (ofPatterns sizeLimit patterns').isIgnored relative := by
    rw [Bool.eq_iff_iff]
    exact ⟨isIgnored_mono hPatterns, isIgnored_mono hPatterns'⟩
  funext relative isFolder size
  rw [check, check, hIgnored]
  rfl

/-- Patterns that are there already change nothing. -/
theorem check_append {sizeLimit : Nat} {patterns more : List String} (hMore : more ⊆ patterns) :
    (ofPatterns sizeLimit (patterns ++ more)).check = (ofPatterns sizeLimit patterns).check :=
  check_congr (List.append_subset.mpr ⟨List.Subset.refl _, hMore⟩) (List.subset_append_left _ _)

theorem toList_comparable (relative : Path) :
    (comparable relative).toList =
      Text.lowerFrom [] (relative.text.toList.map fun c => if c = '\\' then '/' else c) := by
  simp [comparable, Text.lower]

/-- The path of a folder is compared as a part of the path of what lies in it. -/
theorem comparable_prefix_join (relative : Path) (name : Name) :
    (comparable relative).toList <+: (comparable (relative.join name.text)).toList := by
  rw [toList_comparable, toList_comparable, relative.text_join name, Path.front, List.map_append]
  split
  · next hEnd =>
      rcases Bool.or_eq_true_iff.mp hEnd with hEmpty | hSlash
      · rw [String.isEmpty_iff.mp hEmpty]
        exact List.nil_prefix
      · obtain ⟨init, hInit⟩ := List.getLast?_eq_some_iff.mp (of_decide_eq_true hSlash)
        rw [hInit, List.map_append]
        exact Text.lowerFrom_slash_prefix_append _ _ _
  · rw [List.map_append, List.append_assoc]
    exact Text.lowerFrom_prefix_append_slash _ _ _

theorem isIgnored_join {filter : Filter} {relative : Path} (name : Name)
    (hIgnored : filter.isIgnored relative = true) :
    filter.isIgnored (relative.join name.text) = true := by
  obtain ⟨pattern, hPattern, hOccurs⟩ := List.any_eq_true.mp hIgnored
  refine List.any_eq_true.mpr ⟨pattern, hPattern, ?_⟩
  rw [Occurrence.occursIn_iff] at hOccurs ⊢
  exact hOccurs.trans (comparable_prefix_join relative name).isInfix

/-- Leaving an ignored folder aside loses nothing that is not ignored. -/
theorem isIgnored_descend {filter : Filter} {relative : Path} (names : List Name)
    (hIgnored : filter.isIgnored relative = true) :
    filter.isIgnored (relative.descend names) = true := by
  induction names generalizing relative with
  | nil => exact hIgnored
  | cons name names ih => exact ih (isIgnored_join name hIgnored)

end Stencil.Filter
