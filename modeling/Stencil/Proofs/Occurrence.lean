import Stencil.Occurrence

/-! Where a first occurrence lies. A cut fails exactly when the needle occurs nowhere, so a
list without an occurrence has none in any of its tails either, and a stretch in which none
begins has no say in where the first one behind it is. -/

namespace Stencil.Occurrence

variable {α : Type} [DecidableEq α]

theorem afterFront?_append (front hay : List α) : afterFront? front (front ++ hay) = some hay :=
  afterFront?_eq_some_iff.mpr rfl

/-- There is nothing behind a front that a list does not begin with. -/
theorem afterFront?_eq_none_iff {front hay : List α} :
    afterFront? front hay = none ↔ ¬ front <+: hay := by
  constructor
  · rintro hNone ⟨after, rfl⟩
    simp [afterFront?_append] at hNone
  · intro hPrefix
    cases hAfter : afterFront? front hay with
    | none => rfl
    | some after => exact absurd ⟨after, (afterFront?_eq_some_iff.mp hAfter).symm⟩ hPrefix

/-- A list is cut wherever the needle occurs in it, and only then. -/
theorem cut?_eq_none_iff {needle hay : List α} : cut? needle hay = none ↔ ¬ needle <:+: hay := by
  induction hay with
  | nil => cases needle <;> simp [cut?]
  | cons a rest ih =>
      rw [cut?, List.infix_cons_iff]
      cases hAfter : afterFront? needle (a :: rest) with
      | some after =>
          have hPrefix : needle <+: a :: rest := ⟨after, (afterFront?_eq_some_iff.mp hAfter).symm⟩
          simp [hPrefix]
      | none =>
          have hPrefix := afterFront?_eq_none_iff.mp hAfter
          simp [hPrefix, ih]

theorem occursIn_iff {needle hay : List α} : occursIn needle hay = true ↔ needle <:+: hay := by
  rw [occursIn, Option.isSome_iff_ne_none, Ne, cut?_eq_none_iff, Classical.not_not]

/-- What does not occur in a list does not occur at the end of it either. -/
theorem cut?_eq_none_of_suffix {needle hay tail : List α} (hTail : tail <:+ hay)
    (hNone : cut? needle hay = none) : cut? needle tail = none := by
  rw [cut?_eq_none_iff] at hNone ⊢
  exact fun hInfix => hNone (hInfix.trans hTail.isInfix)

/-- An occurrence at the front is the first one. -/
theorem cut?_append (needle back : List α) : cut? needle (needle ++ back) = some ([], back) := by
  cases hHay : needle ++ back with
  | nil =>
      obtain ⟨rfl, rfl⟩ := List.append_eq_nil_iff.mp hHay
      rfl
  | cons a rest => rw [cut?, ← hHay, afterFront?_append]

/-- The first occurrence does not lie behind another one. -/
theorem exists_cut?_append (front needle back : List α) :
    ∃ before after, cut? needle (front ++ needle ++ back) = some (before, after) ∧
      before <+: front := by
  induction front with
  | nil =>
      refine ⟨[], back, ?_, List.nil_prefix⟩
      rw [List.nil_append, cut?_append]
  | cons a front ih =>
      obtain ⟨before, after, hCut, hFront⟩ := ih
      rw [List.cons_append, List.cons_append, cut?, hCut]
      cases afterFront? needle (a :: (front ++ needle ++ back)) with
      | some rest => exact ⟨[], rest, rfl, List.nil_prefix⟩
      | none => exact ⟨a :: before, after, rfl, List.cons_prefix_cons.mpr ⟨rfl, hFront⟩⟩

/-- What precedes the first occurrence has none in it. -/
theorem not_infix_of_cut? {needle hay before after : List α} (hNeedle : needle ≠ [])
    (hCut : cut? needle hay = some (before, after)) : ¬ needle <:+: before := by
  rintro ⟨front, back, hBefore⟩
  obtain ⟨first, rest, hFirst, hFront⟩ := exists_cut?_append front needle (back ++ needle ++ after)
  have hHay : front ++ needle ++ (back ++ needle ++ after) = hay := by
    rw [eq_append_of_cut? hCut, ← hBefore]
    simp only [List.append_assoc]
  rw [hHay, hCut] at hFirst
  obtain rfl := (Prod.mk.inj (Option.some.inj hFirst)).1
  have hLength := hFront.length_le
  have hPositive := List.length_pos_iff.mpr hNeedle
  rw [← hBefore, List.length_append, List.length_append] at hLength
  omega

theorem cutAt?_eq_none_iff {separator : α} {text : List α} :
    cutAt? separator text = none ↔ separator ∉ text := by
  induction text with
  | nil => simp [cutAt?]
  | cons a text ih =>
      rw [cutAt?]
      by_cases hHere : a = separator
      · simp [hHere]
      · simp [hHere, Ne.symm hHere, ih]

/-- A list is cut at the first separator. -/
theorem eq_append_of_cutAt? {separator : α} {text before after : List α}
    (hCut : cutAt? separator text = some (before, after)) :
    text = before ++ separator :: after ∧ separator ∉ before := by
  induction text generalizing before with
  | nil => cases hCut
  | cons a text ih =>
      rw [cutAt?] at hCut
      split at hCut
      · next hHere =>
          cases hCut
          exact ⟨hHere ▸ rfl, List.not_mem_nil⟩
      · next hHere =>
          obtain ⟨⟨before', after'⟩, hRest, hSame⟩ := Option.map_eq_some_iff.mp hCut
          cases hSame
          obtain ⟨hText, hBefore⟩ := ih hRest
          refine ⟨by rw [hText, List.cons_append], fun hMem => ?_⟩
          rcases List.mem_cons.mp hMem with hSame | hMem
          · exact hHere hSame.symm
          · exact hBefore hMem

/-- What follows the first occurrence has no say in where it lies. -/
theorem cut?_append_congr {needle hay before after : List α} (after' : List α)
    (hCut : cut? needle hay = some (before, after)) :
    cut? needle (before ++ needle ++ after') = some (before, after') := by
  obtain ⟨first, rest, hFirst, hBefore⟩ := exists_cut?_append before needle after'
  have hText := eq_append_of_cut? hFirst
  have hNeedle : first ++ needle <+: before ++ needle :=
    List.prefix_of_prefix_length_le ⟨rest, hText.symm⟩ (List.prefix_append _ after')
      (by simpa using hBefore.length_le)
  -- an occurrence in front of the first one of `hay` would be one in `hay` as well
  have hLength : before.length ≤ first.length := by
    obtain ⟨gap, hGap⟩ := hNeedle
    obtain ⟨first', rest', hFirst', hLess⟩ := exists_cut?_append first needle (gap ++ after)
    rw [← List.append_assoc, hGap, ← eq_append_of_cut? hCut, hCut] at hFirst'
    rw [(Prod.mk.inj (Option.some.inj hFirst')).1]
    exact hLess.length_le
  obtain rfl : first = before := hBefore.eq_of_length (Nat.le_antisymm hBefore.length_le hLength)
  rw [hFirst, List.append_cancel_left hText]

/-- A stretch of a list in which no occurrence begins. -/
def Passes (needle front rest : List α) : Prop :=
  ∀ tail, tail <:+ front → tail ≠ [] → ¬ needle <+: tail ++ rest

namespace Passes

omit [DecidableEq α]

variable {needle front front' rest : List α}

theorem tail {a : α} (hPasses : Passes needle (a :: front) rest) : Passes needle front rest :=
  fun tail hTail => hPasses tail (hTail.trans (List.suffix_cons a front))

theorem head {a : α} (hPasses : Passes needle (a :: front) rest) :
    ¬ needle <+: a :: (front ++ rest) :=
  hPasses _ (List.suffix_refl _) (List.cons_ne_nil a front)

/-- A front can be passed part by part, as long as each part looks at what follows it. -/
theorem append (hFront : Passes needle front (front' ++ rest))
    (hRest : Passes needle front' rest) : Passes needle (front ++ front') rest := by
  intro tail hTail hNe
  rcases List.suffix_or_suffix_of_suffix hTail (List.suffix_append front front') with hShort | hLong
  · exact hRest tail hShort hNe
  · obtain ⟨more, rfl⟩ := hLong
    obtain ⟨before, hBefore⟩ := hTail
    have hMore : more <:+ front := by
      rw [← List.append_assoc] at hBefore
      exact ⟨before, List.append_cancel_right hBefore⟩
    by_cases hNil : more = []
    · subst hNil
      exact hRest _ (List.suffix_refl _) hNe
    · rw [List.append_assoc]
      exact hFront more hMore hNil

/-- No occurrence begins where its first element is not. -/
theorem of_not_mem {a : α} (hFirst : a ∉ front) : Passes (a :: needle) front rest := by
  intro tail hTail hNe hPrefix
  obtain ⟨b, tail, rfl⟩ := List.exists_cons_of_ne_nil hNe
  obtain rfl : a = b := (List.cons_prefix_cons.mp hPrefix).1
  exact hFirst (hTail.subset List.mem_cons_self)

end Passes

/-- A front in which no needle begins is carried over to what stands before the cut. -/
theorem cut?_of_passes {needle front rest : List α} (hPasses : Passes needle front rest) :
    cut? needle (front ++ rest) =
      (cut? needle rest).map fun (before, after) => (front ++ before, after) := by
  induction front with
  | nil => cases hCut : cut? needle rest <;> simp [hCut]
  | cons a front ih =>
      rw [List.cons_append, cut?, afterFront?_eq_none_iff.mpr hPasses.head, ih hPasses.tail]
      cases cut? needle rest <;> rfl

/-- A cut is made at an occurrence in front of which none begins. -/
theorem cut?_eq_some_iff {needle hay before after : List α} :
    cut? needle hay = some (before, after) ↔
      hay = before ++ needle ++ after ∧ Passes needle before (needle ++ after) := by
  constructor
  · intro hCut
    have hHay := eq_append_of_cut? hCut
    refine ⟨hHay, ?_⟩
    rintro tail ⟨init, rfl⟩ hNe ⟨back, hBack⟩
    obtain ⟨first, rest, hFirst, hInit⟩ := exists_cut?_append init needle back
    have hSame : init ++ needle ++ back = hay := by
      rw [hHay, List.append_assoc, hBack]
      simp only [List.append_assoc]
    rw [hSame, hCut] at hFirst
    obtain rfl := (Prod.mk.inj (Option.some.inj hFirst)).1
    have hLength := hInit.length_le
    have hPositive := List.length_pos_iff.mpr hNe
    rw [List.length_append] at hLength
    omega
  · rintro ⟨rfl, hPasses⟩
    rw [List.append_assoc, cut?_of_passes hPasses, cut?_append]
    simp only [Option.map_some, List.append_nil]

end Stencil.Occurrence
