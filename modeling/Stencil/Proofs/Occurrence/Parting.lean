import Stencil.Proofs.Occurrence.Replacing

/-! A list parted at the successive occurrences of another one. In front of each occurrence is a gap
in which none begins, and behind the last one is a rest in which there is none. Replacing keeps the
gaps and the rest. -/

namespace Stencil.Occurrence

variable {α : Type}

/-- The gaps of a list with `value` between them, and its rest. -/
def weave (value last : List α) (gaps : List (List α)) : List α :=
  gaps.foldr (fun gap rest => gap ++ (value ++ rest)) last

theorem weave_cons (value last gap : List α) (gaps : List (List α)) :
    weave value last (gap :: gaps) = gap ++ (value ++ weave value last gaps) := rfl

/-- The gaps have the same length whatever stands between them. -/
theorem length_weave_swap (needle value last : List α) (gaps : List (List α)) :
    (weave value last gaps).length + gaps.length * needle.length =
      (weave needle last gaps).length + gaps.length * value.length := by
  induction gaps with
  | nil => simp [weave]
  | cons gap gaps ih =>
      simp only [weave_cons, List.length_append, List.length_cons, Nat.succ_mul]
      omega

/-- A list comes apart at `needle` into these gaps and this rest. -/
inductive Parts (needle : List α) : List α → List (List α) → List α → Prop
  | last {hay : List α} (hNone : ¬ needle <:+: hay) : Parts needle hay [] hay
  | gap {gap rest last : List α} {gaps : List (List α)}
      (hGap : Passes needle gap (needle ++ rest)) (hRest : Parts needle rest gaps last) :
      Parts needle (gap ++ (needle ++ rest)) (gap :: gaps) last

namespace Parts

variable {needle hay last : List α} {gaps : List (List α)}

/-- With the list itself between the gaps, nothing has changed. -/
theorem weave_eq (hParts : Parts needle hay gaps last) : weave needle last gaps = hay := by
  induction hParts with
  | last => rfl
  | gap hGap hRest ih => rw [weave_cons, ih]

/-- As many times as `needle` is taken out, `value` is put in. -/
theorem length_weave_add (hParts : Parts needle hay gaps last) (value : List α) :
    (weave value last gaps).length + gaps.length * needle.length =
      hay.length + gaps.length * value.length := by
  have hLength := length_weave_swap needle value last gaps
  rw [hParts.weave_eq] at hLength
  exact hLength

theorem passes_to_end (hNone : ¬ needle <:+: hay) : Passes needle hay [] := by
  intro tail hTail _ hPrefix
  rw [List.append_nil] at hPrefix
  exact hNone (hPrefix.isInfix.trans hTail.isInfix)

variable [DecidableEq α]

theorem length_offsetsFrom (hNeedle : needle ≠ []) (hParts : Parts needle hay gaps last)
    (base : Nat) : (offsetsFrom needle base 0 hay).length = gaps.length := by
  induction hParts generalizing base with
  | @last hay hNone =>
      have hOffsets := offsetsFrom_of_passes (passes_to_end hNone) base
      rw [List.append_nil] at hOffsets
      rw [hOffsets]
      rfl
  | gap hGap hRest ih =>
      rw [offsetsFrom_of_passes hGap, offsetsFrom_append hNeedle, List.length_cons,
        List.length_cons, ih]

theorem replaceFrom_eq (hNeedle : needle ≠ []) (hParts : Parts needle hay gaps last)
    (value : List α) : replaceFrom needle value 0 hay = weave value last gaps := by
  induction hParts with
  | @last hay hNone =>
      have hReplace := replaceFrom_of_passes (passes_to_end hNone) value
      rw [List.append_nil] at hReplace
      rw [hReplace]
      exact List.append_nil hay
  | gap hGap hRest ih =>
      rw [replaceFrom_of_passes hGap, replaceFrom_append hNeedle, ih, weave_cons]

/-- Splicing at the offsets of the occurrences keeps the gaps, and there is one offset for each. -/
theorem splice_eq (hNeedle : needle ≠ []) (hParts : Parts needle hay gaps last)
    (value : List α) :
    splice hay (offsets needle hay) needle.length value = weave value last gaps ∧
      (offsets needle hay).length = gaps.length :=
  ⟨(splice_offsets hNeedle value hay).trans (hParts.replaceFrom_eq hNeedle value),
    hParts.length_offsetsFrom hNeedle 0⟩

end Parts

variable [DecidableEq α]

/-- Every list comes apart at a list that is not empty. -/
theorem exists_parts {needle : List α} (hNeedle : needle ≠ []) (hay : List α) :
    ∃ gaps last, Parts needle hay gaps last := by
  induction hLength : hay.length using Nat.strong_induction_on generalizing hay with
  | h length ih =>
      cases hCut : cut? needle hay with
      | none => exact ⟨[], hay, .last (cut?_eq_none_iff.mp hCut)⟩
      | some found =>
          obtain ⟨gap, rest⟩ := found
          obtain ⟨rfl, hGap⟩ := cut?_eq_some_iff.mp hCut
          have hShorter : rest.length < length := by
            have hPositive := List.length_pos_iff.mpr hNeedle
            rw [← hLength]
            simp only [List.length_append]
            omega
          obtain ⟨gaps, last, hRest⟩ := ih rest.length hShorter rest rfl
          rw [List.append_assoc]
          exact ⟨gap :: gaps, last, .gap hGap hRest⟩

end Stencil.Occurrence
