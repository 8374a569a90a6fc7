import Stencil.Text.Case

/-! Lower case in surroundings. Whether a sigma is final depends on what stands around it, up to the
nearest characters that are not passed over, and nothing else about lower case does. So a stretch of
a text is lowered as it would be alone, the forms of its sigmas aside. No look goes past a slash, so
what lies in a folder has no say in how the path of the folder is lowered. -/

namespace Stencil.Text

/-- Whether a text has a character at which a look for a cased one ends. -/
def hasStop (text : List Char) : Bool :=
  text.any fun c => !inRanges caseIgnorableRanges c.toNat

/-- What stands behind the first stop has no say. -/
theorem meetsCased_append (text rest : List Char) :
    meetsCased (text ++ rest) = if hasStop text then meetsCased text else meetsCased rest := by
  induction text with
  | nil => rfl
  | cons c text ih =>
      unfold meetsCased hasStop at ih ⊢
      cases hHere : inRanges caseIgnorableRanges c.toNat with
      | true => simpa [hHere] using ih
      | false => simp [hHere]

theorem hasStop_of_meetsCased {text : List Char} (hCased : meetsCased text = true) :
    hasStop text = true := by
  cases hStop : hasStop text with
  | true => rfl
  | false =>
      have hEmpty := meetsCased_append text []
      rw [List.append_nil, hCased, hStop] at hEmpty
      cases hEmpty

theorem meetsCased_append_of_uncased (text : List Char) {rest : List Char}
    (hRest : meetsCased rest = false) : meetsCased (text ++ rest) = meetsCased text := by
  rw [meetsCased_append, hRest]
  cases hCased : meetsCased text with
  | true => rw [hasStop_of_meetsCased hCased, if_pos rfl]
  | false => exact ite_self _

theorem hasStop_reverse (text : List Char) : hasStop text.reverse = hasStop text :=
  List.any_reverse

/-- Whether a sigma is final between `before`, last one first, and `after`. -/
def isFinal (before after : List Char) : Bool := meetsCased before && !meetsCased after

/-- Lowers a stretch that stands between `before`, last one first, and `after`. -/
def lowerWithin (before after : List Char) : List Char → List Char
  | [] => []
  | c :: text =>
      (if c = 'Σ' then [if isFinal before (text ++ after) then 'ς' else 'σ'] else lowerChar c) ++
        lowerWithin (c :: before) after text

theorem lowerFrom_append (before text rest : List Char) :
    lowerFrom before (text ++ rest) =
      lowerWithin before rest text ++ lowerFrom (text.reverse ++ before) rest := by
  induction text generalizing before with
  | nil => rfl
  | cons c text ih =>
      rw [List.cons_append, lowerFrom, ih, lowerWithin, isFinal]
      simp only [List.reverse_cons, List.append_assoc, List.singleton_append]

theorem lowerWithin_nil (before text : List Char) :
    lowerWithin before [] text = lowerFrom before text := by
  have hAppend := lowerFrom_append before text []
  rw [List.append_nil, lowerFrom, List.append_nil] at hAppend
  exact hAppend.symm

/-- A text is lowered stretch by stretch. -/
theorem lowerFrom_stretch (front text back : List Char) :
    lowerFrom [] (front ++ text ++ back) =
      lowerWithin [] (text ++ back) front ++ lowerWithin front.reverse back text ++
        lowerWithin (text.reverse ++ front.reverse) [] back := by
  rw [List.append_assoc, lowerFrom_append, lowerFrom_append, List.append_nil, lowerWithin_nil,
    List.append_assoc]

/-- A stretch comes out alike in two surroundings exactly if its sigmas do. -/
theorem lowerWithin_eq_iff {before after before' after' text : List Char} :
    lowerWithin before after text = lowerWithin before' after' text ↔
      ∀ front back, text = front ++ 'Σ' :: back →
        isFinal (front.reverse ++ before) (back ++ after) =
          isFinal (front.reverse ++ before') (back ++ after') := by
  induction text generalizing before before' with
  | nil => simp [lowerWithin]
  | cons c text ih =>
      have hSplits : (∀ front back, c :: text = front ++ 'Σ' :: back →
          isFinal (front.reverse ++ before) (back ++ after) =
            isFinal (front.reverse ++ before') (back ++ after')) ↔
          (c = 'Σ' → isFinal before (text ++ after) = isFinal before' (text ++ after')) ∧
            lowerWithin (c :: before) after text = lowerWithin (c :: before') after' text := by
        rw [ih]
        constructor
        · intro hAll
          refine ⟨fun hSigma => hAll [] text (by rw [hSigma]; rfl), fun front back hText => ?_⟩
          simpa using hAll (c :: front) back (by rw [hText]; rfl)
        · rintro ⟨hHere, hLater⟩ front back hText
          cases front with
          | nil =>
              obtain ⟨hSigma, rfl⟩ := List.cons.inj hText
              exact hHere hSigma
          | cons d front =>
              obtain ⟨rfl, hRest⟩ := List.cons.inj hText
              simpa using hLater front back hRest
      rw [hSplits, lowerWithin, lowerWithin]
      by_cases hSigma : c = 'Σ'
      · rw [if_pos hSigma, if_pos hSigma]
        cases isFinal before (text ++ after) <;> cases isFinal before' (text ++ after') <;>
          simp [hSigma]
      · simp [hSigma]

/-- Both lower forms of a sigma as one. -/
def foldSigma (c : Char) : Char := if c = 'ς' then 'σ' else c

/-- Surroundings only choose between the forms of a sigma. -/
theorem map_foldSigma_lowerWithin (before after before' after' text : List Char) :
    (lowerWithin before after text).map foldSigma =
      (lowerWithin before' after' text).map foldSigma := by
  induction text generalizing before before' with
  | nil => rfl
  | cons c text ih =>
      rw [lowerWithin, lowerWithin, List.map_append, List.map_append, ih (c :: before) (c :: before')]
      by_cases hSigma : c = 'Σ'
      · rw [if_pos hSigma, if_pos hSigma]
        cases isFinal before (text ++ after) <;> cases isFinal before' (text ++ after') <;> rfl
      · rw [if_neg hSigma, if_neg hSigma]

/-- A stretch whose sigmas all have the forms that they have in the stretch alone. -/
def KeepsForms (before text after : List Char) : Prop :=
  ∀ front back, text = front ++ 'Σ' :: back →
    isFinal (front.reverse ++ before) (back ++ after) = isFinal front.reverse back

theorem KeepsForms.lowerWithin_eq {before text after : List Char}
    (hForms : KeepsForms before text after) : lowerWithin before after text = lowerFrom [] text := by
  rw [← lowerWithin_nil]
  apply lowerWithin_eq_iff.mpr
  simpa [KeepsForms] using hForms

/-- A place in a text where a sigma has one form, whatever surrounds the text. -/
def SettledAt (front back : List Char) : Prop :=
  meetsCased back = true ∨
    hasStop front = true ∧ (meetsCased front.reverse = false ∨ hasStop back = true)

instance (front back : List Char) : Decidable (SettledAt front back) :=
  inferInstanceAs (Decidable (_ ∨ _ ∧ (_ ∨ _)))

theorem SettledAt.isFinal_append {front back : List Char} (hSettled : SettledAt front back)
    (before after : List Char) :
    isFinal (front.reverse ++ before) (back ++ after) = isFinal front.reverse back := by
  rw [isFinal, isFinal, meetsCased_append, meetsCased_append, hasStop_reverse]
  rcases hSettled with hBack | ⟨hFront, hEnd | hBack⟩
  · simp [hBack, hasStop_of_meetsCased hBack]
  · simp [hFront, hEnd]
  · simp [hFront, hBack]

/-- A capital letter in front, and one behind as well if need be, changes the form of any other
sigma. -/
theorem exists_isFinal_ne {front back : List Char} (hOpen : ¬ SettledAt front back) :
    ∃ after ∈ [[], ['A']],
      isFinal (front.reverse ++ ['A']) (back ++ after) ≠ isFinal front.reverse back := by
  have hLetter : meetsCased ['A'] = true := by decide +kernel
  have hNothing : meetsCased [] = false := rfl
  simp only [SettledAt, not_or, not_and, Bool.not_eq_true, Bool.not_eq_false] at hOpen
  obtain ⟨hBack, hFront⟩ := hOpen
  cases hStop : hasStop front with
  | false =>
      have hUncased : meetsCased front.reverse = false := by
        rw [Bool.eq_false_iff]
        intro hCased
        have hStop' := hasStop_of_meetsCased hCased
        rw [hasStop_reverse, hStop] at hStop'
        cases hStop'
      refine ⟨[], by simp, ?_⟩
      simp [isFinal, meetsCased_append, hasStop_reverse, hStop, hLetter, hBack, hUncased]
  | true =>
      obtain ⟨hCased, hOpenBack⟩ := hFront hStop
      refine ⟨['A'], by simp, ?_⟩
      simp [isFinal, meetsCased_append, hasStop_reverse, hStop, hLetter, hBack, hCased, hOpenBack]

/-- A text whose sigmas all have one form, whatever surrounds it. -/
def Settled (text : List Char) : Prop :=
  ∀ front back, text = front ++ 'Σ' :: back → SettledAt front back

instance (text : List Char) : Decidable (Settled text) :=
  decidable_of_iff (∀ n < text.length, text[n]? = some 'Σ' →
      SettledAt (text.take n) (text.drop (n + 1))) <| by
    constructor
    · rintro hAll front back rfl
      simpa using hAll front.length (by simp) (by simp)
    · intro hSettled n hLess hSigma
      apply hSettled
      obtain ⟨hLess, hChar⟩ := List.getElem?_eq_some_iff.mp hSigma
      rw [← hChar, ← List.drop_eq_getElem_cons hLess, List.take_append_drop]

/-- No look for a cased character goes past a slash. -/
theorem meetsCased_slash (rest : List Char) : meetsCased ('/' :: rest) = false := by
  have hIgnorable : inRanges caseIgnorableRanges '/'.toNat = false := by decide +kernel
  have hCased : inRanges casedRanges '/'.toNat = false := by decide +kernel
  have hStop : ('/' :: rest).dropWhile (fun c => inRanges caseIgnorableRanges c.toNat) =
      '/' :: rest := List.dropWhile_cons_of_neg (Bool.eq_false_iff.mp hIgnorable)
  rw [meetsCased, hStop]
  exact hCased

theorem lowerFrom_append_slash (before text rest : List Char) :
    lowerFrom before (text ++ '/' :: rest) =
      lowerFrom before text ++ lowerFrom (text.reverse ++ before) ('/' :: rest) := by
  have hSame : lowerWithin before ('/' :: rest) text = lowerWithin before [] text := by
    apply lowerWithin_eq_iff.mpr
    intro front back _
    rw [isFinal, isFinal, meetsCased_append_of_uncased back (meetsCased_slash rest), List.append_nil]
  rw [lowerFrom_append, hSame, lowerWithin_nil]

/-- What is lowered up to a slash is lowered alike without the rest. -/
theorem lowerFrom_prefix_append_slash (before text rest : List Char) :
    lowerFrom before text <+: lowerFrom before (text ++ '/' :: rest) := by
  rw [lowerFrom_append_slash]
  exact List.prefix_append _ _

theorem lowerFrom_slash_prefix_append (before text rest : List Char) :
    lowerFrom before (text ++ ['/']) <+: lowerFrom before (text ++ ['/'] ++ rest) := by
  have hSlash (before rest : List Char) :
      lowerFrom before ('/' :: rest) = lowerChar '/' ++ lowerFrom ('/' :: before) rest := rfl
  rw [List.append_assoc, List.singleton_append, lowerFrom_append_slash, lowerFrom_append_slash,
    hSlash, hSlash, lowerFrom, List.append_nil]
  exact (List.prefix_append_right_inj _).mpr (List.prefix_append _ _)

end Stencil.Text
