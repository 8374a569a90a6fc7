import Mathlib.Data.List.Basic
import Stencil.Proofs.Filter
import Stencil.Proofs.Text.Blank

/-! Patterns that occur in a path just as they are written. Pattern and path are lowered apart, and
a sigma may come out in two forms, by what surrounds it. So a pattern is found wherever its sigmas
keep their forms, and it is found in all paths that it occurs in exactly if none of its sigmas has
a form that depends on the surroundings. -/

namespace Stencil

open Text

namespace Occurrence

variable {α : Type} [DecidableEq α] {a : α} {front middle back : List α}

/-- A stretch that has all the occurrences of an element occurs at one place only. -/
theorem front_eq_of_mem {front' back' : List α} (hFront : a ∉ front) (hMiddle : a ∈ middle)
    (hBack : a ∉ back) (hSame : front ++ middle ++ back = front' ++ middle ++ back') :
    front = front' := by
  have hFront' : a ∉ front' := by
    have hCount := congrArg (List.count a) hSame
    simp only [List.count_append, List.count_eq_zero.mpr hFront, List.count_eq_zero.mpr hBack]
      at hCount
    apply List.count_eq_zero.mp
    omega
  obtain ⟨init, rest, rfl, hInit⟩ := List.eq_append_cons_of_mem hMiddle
  have hTake {before after : List α} (hBefore : a ∉ before) :
      (before ++ init ++ a :: after).takeWhile (· ≠ a) = before ++ init := by
    apply takeWhile_append_of_stop
    · intro b hMem
      have hNot : a ∉ before ++ init := by simp [hBefore, hInit]
      exact decide_eq_true fun hEq => hNot (hEq ▸ hMem)
    · simp
  have hFirst : front ++ init ++ a :: (rest ++ back) = front' ++ init ++ a :: (rest ++ back') := by
    simpa using hSame
  have hInits := congrArg (List.takeWhile (· ≠ a)) hFirst
  rw [hTake hFront, hTake hFront'] at hInits
  exact List.append_cancel_right hInits

omit [DecidableEq α] in
/-- An element that is in neither end of a list lies between the two. -/
theorem exists_between_of_not_mem {before after : List α} (hFront : a ∉ front) (hBack : a ∉ back)
    (hSame : front ++ middle ++ back = before ++ a :: after) :
    ∃ init rest, middle = init ++ a :: rest ∧ before = front ++ init ∧ after = rest ++ back := by
  obtain ⟨init, rfl, hRest⟩ : ∃ init, before = front ++ init ∧
      middle ++ back = init ++ a :: after := by
    rw [List.append_assoc, List.append_eq_append_iff] at hSame
    rcases hSame with hBehind | ⟨more, rfl, hMore⟩
    · exact hBehind
    · cases more with
      | nil => exact ⟨[], by simp, hMore.symm⟩
      | cons b more =>
          obtain ⟨rfl, -⟩ := List.cons.inj hMore
          exact absurd (List.mem_append_right before List.mem_cons_self) hFront
  rw [List.append_eq_append_iff] at hRest
  rcases hRest with ⟨more, -, rfl⟩ | ⟨more, rfl, hMore⟩
  · exact absurd (List.mem_append_right more List.mem_cons_self) hBack
  · cases more with
    | nil =>
        obtain rfl : a :: after = back := hMore
        exact absurd List.mem_cons_self hBack
    | cons b rest =>
        obtain ⟨rfl, rfl⟩ := List.cons.inj hMore
        exact ⟨init, rest, rfl, rfl, rfl⟩

end Occurrence

namespace Text

/-- A blank ends a look for a cased character, is not cased, and is lowered to itself. -/
theorem blank_stops (c : Char) (hBlank : isBlank c = true) :
    meetsCased [c] = false ∧ hasStop [c] = true ∧ c ≠ 'Σ' ∧
      'σ' ∉ (lowerChar c).map foldSigma := by
  revert c
  apply forall_blank
  decide +kernel

theorem lowerChar_ne_nil (c : Char) : lowerChar c ≠ [] := by
  have hForms : ∀ form ∈ lowerExpansions, form.2.map Char.ofNat ≠ [] := by decide
  rw [lowerChar, changeCase]
  split
  · exact List.cons_ne_nil _ _
  · split
    next hForm =>
      obtain ⟨front, back, hTable, -⟩ := List.lookup_eq_some_iff.mp hForm
      apply hForms (c.toNat, _)
      rw [hTable]
      exact List.mem_append_right front List.mem_cons_self
    · exact List.cons_ne_nil _ _

theorem lowerFrom_ne_nil {before text : List Char} (hText : text ≠ []) :
    lowerFrom before text ≠ [] := by
  obtain ⟨c, rest, rfl⟩ := List.exists_cons_of_ne_nil hText
  rw [lowerFrom]
  split
  · exact List.cons_ne_nil _ _
  · exact List.append_ne_nil_of_left_ne_nil (lowerChar_ne_nil c) _

theorem meetsCased_of_blank {text : List Char} (hBlank : ∀ c ∈ text, isBlank c = true) :
    meetsCased text = false := by
  cases text with
  | nil => rfl
  | cons c rest =>
      obtain ⟨hUncased, hStop, -⟩ := blank_stops c (hBlank c List.mem_cons_self)
      rw [← List.singleton_append, meetsCased_append, hStop, if_pos rfl, hUncased]

theorem sigma_mem_lowerWithin (before after : List Char) {text : List Char} (hSigma : 'Σ' ∈ text) :
    'σ' ∈ (lowerWithin before after text).map foldSigma := by
  induction text generalizing before with
  | nil => cases hSigma
  | cons c text ih =>
      rw [lowerWithin, List.map_append, List.mem_append]
      by_cases hHere : c = 'Σ'
      · left
        rw [if_pos hHere]
        cases isFinal before (text ++ after) <;> decide
      · exact .inr (ih _ ((List.mem_cons.mp hSigma).resolve_left (Ne.symm hHere)))

theorem sigma_not_mem_lowerWithin (before after : List Char) {text : List Char}
    (hText : ∀ c ∈ text, c = 'A' ∨ isBlank c = true) :
    'σ' ∉ (lowerWithin before after text).map foldSigma := by
  induction text generalizing before with
  | nil => exact List.not_mem_nil
  | cons c text ih =>
      obtain ⟨hHere, hLater⟩ := List.forall_mem_cons.mp hText
      have hPlain : c ≠ 'Σ' ∧ 'σ' ∉ (lowerChar c).map foldSigma := by
        rcases hHere with rfl | hBlank
        · decide +kernel
        · exact (blank_stops c hBlank).2.2
      rw [lowerWithin, if_neg hPlain.1, List.map_append, List.mem_append, not_or]
      exact ⟨hPlain.2, ih _ hLater⟩

/-- Blanks at the ends of a text have no say in the forms of its sigmas. -/
theorem isFinal_between_blanks {front back : List Char} (hFront : ∀ c ∈ front, isBlank c = true)
    (hBack : ∀ c ∈ back, isBlank c = true) (init rest : List Char) :
    isFinal (front ++ init).reverse (rest ++ back) = isFinal init.reverse rest := by
  have hReverse : ∀ c ∈ front.reverse, isBlank c = true :=
    fun c hMem => hFront c (List.mem_reverse.mp hMem)
  rw [isFinal, isFinal, List.reverse_append,
    meetsCased_append_of_uncased _ (meetsCased_of_blank hReverse),
    meetsCased_append_of_uncased _ (meetsCased_of_blank hBack)]

variable {front text back : List Char}

/-- A text whose sigmas keep their forms is found in what its surroundings are lowered to. -/
theorem KeepsForms.trim_infix (hForms : KeepsForms front.reverse text back) :
    lowerFrom [] (trim text) <:+: lowerFrom [] (front ++ text ++ back) := by
  obtain ⟨left, right, hText, hLeft, hRight⟩ := exists_trim text
  generalize trim text = core at hText ⊢
  subst hText
  have hCore : KeepsForms (front ++ left).reverse core (right ++ back) := by
    rintro init rest rfl
    have hHere := hForms (left ++ init) (rest ++ right) (by simp)
    rw [isFinal_between_blanks hLeft hRight] at hHere
    simpa using hHere
  have hWhole : front ++ (left ++ core ++ right) ++ back =
      (front ++ left) ++ core ++ (right ++ back) := by simp only [List.append_assoc]
  rw [hWhole, lowerFrom_stretch, hCore.lowerWithin_eq]
  exact List.infix_append _ _ _

/-- Texts that differ in the forms of sigmas only are found one in the other's place, if there are
no more sigmas elsewhere. -/
theorem eq_of_same_sigmas {front middle back front' middle' back' : List Char}
    (hFold : middle'.map foldSigma = middle.map foldSigma) (hFront : 'σ' ∉ front.map foldSigma)
    (hMiddle : 'σ' ∈ middle.map foldSigma) (hBack : 'σ' ∉ back.map foldSigma)
    (hSame : front ++ middle ++ back = front' ++ middle' ++ back') : middle = middle' := by
  have hPlace := congrArg (List.map foldSigma) hSame
  simp only [List.map_append, hFold] at hPlace
  have hFronts := congrArg List.length (Occurrence.front_eq_of_mem hFront hMiddle hBack hPlace)
  have hMiddles := congrArg List.length hFold
  rw [List.length_map, List.length_map] at hFronts hMiddles
  rw [List.append_assoc, List.append_assoc] at hSame
  exact (List.append_inj (List.append_inj hSame hFronts).2 hMiddles.symm).1

/-- A text of which a sigma changes its form is not found where no other sigmas are. -/
theorem not_trim_infix_of_isFinal_ne (hFront : ∀ c ∈ front, c = 'A') (hBack : ∀ c ∈ back, c = 'A')
    {init rest : List Char} (hText : text = init ++ 'Σ' :: rest)
    (hForm : isFinal (init.reverse ++ front.reverse) (rest ++ back) ≠ isFinal init.reverse rest) :
    ¬ lowerFrom [] (trim text) <:+: lowerFrom [] (front ++ text ++ back) := by
  obtain ⟨left, right, hTrim, hLeft, hRight⟩ := exists_trim text
  generalize trim text = core at hTrim ⊢
  have hSigma {side : List Char} (hSide : ∀ c ∈ side, isBlank c = true) : 'Σ' ∉ side :=
    fun hMem => absurd (hSide 'Σ' hMem) (by decide)
  obtain ⟨init, rest, hCore, rfl, rfl⟩ := Occurrence.exists_between_of_not_mem (hSigma hLeft)
    (hSigma hRight) (hTrim.symm.trans hText)
  rw [isFinal_between_blanks hLeft hRight] at hForm
  have hWhole : front ++ text ++ back = (front ++ left) ++ core ++ (right ++ back) := by
    rw [hTrim]
    simp only [List.append_assoc]
  have hAhead : ∀ c ∈ front ++ left, c = 'A' ∨ isBlank c = true :=
    fun c hMem => (List.mem_append.mp hMem).imp (hFront c) (hLeft c)
  have hBehind : ∀ c ∈ right ++ back, c = 'A' ∨ isBlank c = true :=
    fun c hMem => (List.mem_append.mp hMem).symm.imp (hBack c) (hRight c)
  rw [hWhole, lowerFrom_stretch, ← lowerWithin_nil]
  rintro ⟨before, after, hSame⟩
  -- the sigmas tell where the text would be found: just where it stands
  have hAlike := eq_of_same_sigmas (map_foldSigma_lowerWithin _ _ _ _ _)
    (sigma_not_mem_lowerWithin _ _ hAhead) (sigma_mem_lowerWithin _ _ (by simp [hCore]))
    (sigma_not_mem_lowerWithin _ _ hBehind) hSame.symm
  have hHere := lowerWithin_eq_iff.mp hAlike init rest hCore
  exact hForm (by simpa using hHere)

end Text

namespace Filter

/-- The path that patterns are looked for in, not lowered yet. -/
def slashed (relative : Path) : List Char :=
  relative.text.toList.map fun c => if c = '\\' then '/' else c

theorem backslash_not_mem_slashed (relative : Path) : '\\' ∉ slashed relative := by
  intro hMem
  obtain ⟨c, -, hSame⟩ := List.mem_map.mp hMem
  split at hSame
  · cases hSame
  · contradiction

theorem slashed_of_not_mem {relative : Path} (hSlash : '\\' ∉ relative.text.toList) :
    slashed relative = relative.text.toList := by
  rw [slashed]
  conv_rhs => rw [← List.map_id relative.text.toList]
  apply List.map_congr_left
  intro c hMem
  have hOther : c ≠ '\\' := fun hSame => hSlash (hSame ▸ hMem)
  exact if_neg hOther

theorem toList_normalize (pattern : String) :
    (normalize pattern).toList = lowerFrom [] (trim pattern.toList) := by
  simp [normalize, lower]

theorem trim_ne_nil {pattern : String} (hPattern : isBlankText pattern = false) :
    trim pattern.toList ≠ [] := by
  intro hNil
  obtain ⟨front, back, hText, hFront, hBack⟩ := exists_trim pattern.toList
  rw [hNil, List.append_nil] at hText
  rw [isBlankText, hText, Bool.eq_false_iff, Ne, List.all_eq_true] at hPattern
  exact hPattern (List.forall_mem_append.mpr ⟨hFront, hBack⟩)

theorem isIgnored_iff_infix {sizeLimit : Nat} {patterns : List String} {relative : Path} :
    (ofPatterns sizeLimit patterns).isIgnored relative = true ↔
      ∃ pattern ∈ patterns, normalize pattern ≠ "" ∧
        lowerFrom [] (trim pattern.toList) <:+: lowerFrom [] (slashed relative) := by
  simp only [isIgnored_ofPatterns, Occurrence.occursIn_iff, toList_normalize, toList_comparable,
    slashed]

theorem isIgnored_of_keepsForms {pattern : String} (hPattern : isBlankText pattern = false)
    {sizeLimit : Nat} {patterns : List String} {relative : Path} {front back : List Char}
    (hMem : pattern ∈ patterns) (hPath : slashed relative = front ++ pattern.toList ++ back)
    (hForms : KeepsForms front.reverse pattern.toList back) :
    (ofPatterns sizeLimit patterns).isIgnored relative = true := by
  refine isIgnored_iff_infix.mpr ⟨pattern, hMem, ?_, hPath ▸ hForms.trim_infix⟩
  rw [Ne, ← String.toList_eq_nil_iff, toList_normalize]
  exact lowerFrom_ne_nil (trim_ne_nil hPattern)

/-- A path with a pattern in it that is not found there. -/
theorem exists_missed {pattern : String} (hSlash : '\\' ∉ pattern.toList)
    (hOpen : ¬ Settled pattern.toList) :
    ∃ relative : Path, relative.head ≠ ['/'] ∧ pattern.toList <:+: slashed relative ∧
      (ofPatterns 0 [pattern]).isIgnored relative = false := by
  simp only [Settled, not_forall] at hOpen
  obtain ⟨init, rest, hText, hSettled⟩ := hOpen
  obtain ⟨after, hAfter, hForm⟩ := exists_isFinal_ne hSettled
  have hFront : ∀ c ∈ ['A'], c = 'A' := by simp
  have hBack : ∀ c ∈ after, c = 'A' := by
    rcases List.mem_pair.mp hAfter with rfl | rfl <;> simp
  let path : Path := ⟨String.ofList (['A'] ++ pattern.toList ++ after)⟩
  have hPath : slashed path = ['A'] ++ pattern.toList ++ after := by
    have hText : path.text.toList = ['A'] ++ pattern.toList ++ after := String.toList_ofList
    rw [slashed_of_not_mem, hText]
    rw [hText, List.mem_append, List.mem_append]
    rintro ((hMem | hMem) | hMem)
    · exact absurd (hFront _ hMem) (by decide)
    · exact hSlash hMem
    · exact absurd (hBack _ hMem) (by decide)
  refine ⟨path, by simp [path, Path.head], hPath ▸ List.infix_append _ _ _, ?_⟩
  rw [Bool.eq_false_iff, Ne, isIgnored_iff_infix, hPath]
  rintro ⟨other, hOther, -, hInfix⟩
  rw [List.mem_singleton.mp hOther] at hInfix
  exact not_trim_infix_of_isFinal_ne hFront hBack hText hForm hInfix

end Filter

end Stencil
