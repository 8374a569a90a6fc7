import Mathlib.Data.List.Infix
import Stencil.Proofs.Occurrence

/-! Replacing occurrences one after the other. A replacement goes on behind what it replaced, so
it can be followed from one occurrence to the next, and it passes over any stretch in which none
begins. Splicing at the offsets of the occurrences is the same replacement. -/

namespace Stencil.Occurrence

variable {α : Type} [DecidableEq α] {needle : List α}

/-- Items that belong to a needle already found are passed over. -/
theorem offsetsFrom_skip (base : Nat) (front rest : List α) :
    offsetsFrom needle base front.length (front ++ rest) =
      offsetsFrom needle (base + front.length) 0 rest := by
  induction front generalizing base with
  | nil => rfl
  | cons a front ih =>
      rw [List.length_cons, List.cons_append, offsetsFrom, ih, Nat.add_right_comm, Nat.add_assoc]

theorem replaceFrom_skip (value front rest : List α) :
    replaceFrom needle value front.length (front ++ rest) = replaceFrom needle value 0 rest := by
  induction front with
  | nil => rfl
  | cons a front ih => rw [List.length_cons, List.cons_append, replaceFrom, ih]

/-- A needle at the front is found, and the search goes on behind it. -/
theorem offsetsFrom_append (hNeedle : needle ≠ []) (base : Nat) (rest : List α) :
    offsetsFrom needle base 0 (needle ++ rest) =
      base :: offsetsFrom needle (base + needle.length) 0 rest := by
  cases needle with
  | nil => exact absurd rfl hNeedle
  | cons a needle =>
      have hPrefix : (a :: needle).isPrefixOf (a :: (needle ++ rest)) = true :=
        List.isPrefixOf_iff_prefix.mpr (List.prefix_append (a :: needle) rest)
      rw [List.cons_append, offsetsFrom, if_pos hPrefix, List.length_cons, Nat.add_sub_cancel,
        offsetsFrom_skip, Nat.add_assoc, Nat.add_comm 1]

theorem replaceFrom_append (hNeedle : needle ≠ []) (value rest : List α) :
    replaceFrom needle value 0 (needle ++ rest) = value ++ replaceFrom needle value 0 rest := by
  cases needle with
  | nil => exact absurd rfl hNeedle
  | cons a needle =>
      have hPrefix : (a :: needle).isPrefixOf (a :: (needle ++ rest)) = true :=
        List.isPrefixOf_iff_prefix.mpr (List.prefix_append (a :: needle) rest)
      rw [List.cons_append, replaceFrom, if_pos hPrefix, List.length_cons, Nat.add_sub_cancel,
        replaceFrom_skip]

theorem offsetsFrom_cons {a : α} {rest : List α} (hHere : ¬ needle <+: a :: rest) (base : Nat) :
    offsetsFrom needle base 0 (a :: rest) = offsetsFrom needle (base + 1) 0 rest := by
  rw [offsetsFrom, if_neg fun hPrefix => hHere (List.isPrefixOf_iff_prefix.mp hPrefix)]

theorem replaceFrom_cons {a : α} {rest : List α} (hHere : ¬ needle <+: a :: rest)
    (value : List α) :
    replaceFrom needle value 0 (a :: rest) = a :: replaceFrom needle value 0 rest := by
  rw [replaceFrom, if_neg fun hPrefix => hHere (List.isPrefixOf_iff_prefix.mp hPrefix)]

/-- Where no needle begins in the front, none is found there, not even one that reaches into the
rest. -/
theorem offsetsFrom_of_passes {front rest : List α} (hPasses : Passes needle front rest)
    (base : Nat) :
    offsetsFrom needle base 0 (front ++ rest) =
      offsetsFrom needle (base + front.length) 0 rest := by
  induction front generalizing base with
  | nil => rfl
  | cons a front ih =>
      rw [List.cons_append, offsetsFrom_cons hPasses.head, ih hPasses.tail, List.length_cons,
        Nat.add_right_comm, Nat.add_assoc]

/-- Where no needle begins in the front, it is copied. -/
theorem replaceFrom_of_passes {front rest : List α} (hPasses : Passes needle front rest)
    (value : List α) :
    replaceFrom needle value 0 (front ++ rest) = front ++ replaceFrom needle value 0 rest := by
  induction front with
  | nil => rfl
  | cons a front ih =>
      rw [List.cons_append, replaceFrom_cons hPasses.head, ih hPasses.tail, List.cons_append]

/-- Induction from one occurrence to the next. -/
@[elab_as_elim]
theorem replacing_induction {motive : List α → Prop} (hNeedle : needle ≠ []) (nil : motive [])
    (pass : ∀ a rest, ¬ needle <+: a :: rest → motive rest → motive (a :: rest))
    (hit : ∀ rest, motive rest → motive (needle ++ rest)) (hay : List α) : motive hay := by
  induction hLength : hay.length using Nat.strong_induction_on generalizing hay with
  | h length ih =>
      by_cases hHere : needle <+: hay
      · obtain ⟨rest, rfl⟩ := hHere
        have hPositive := List.length_pos_iff.mpr hNeedle
        rw [List.length_append] at hLength
        exact hit rest (ih rest.length (by omega) rest rfl)
      · cases hay with
        | nil => exact nil
        | cons a rest => exact pass a rest hHere (ih rest.length (by simp [← hLength]) rest rfl)

/-- What was passed over since the last splice is copied. -/
theorem spliceFrom_offsetsFrom (hNeedle : needle ≠ []) (value front passed tail : List α) :
    spliceFrom (front ++ passed ++ tail) needle.length value front.length
        (offsetsFrom needle (front ++ passed).length 0 tail) =
      passed ++ replaceFrom needle value 0 tail := by
  induction tail using replacing_induction hNeedle generalizing front passed with
  | nil =>
      simp [offsetsFrom, spliceFrom, replaceFrom]
  | pass a rest hHere ih =>
      have hNext := ih front (passed ++ [a])
      have hLength : (front ++ (passed ++ [a])).length = (front ++ passed).length + 1 := by
        simp only [List.length_append, List.length_singleton, Nat.add_assoc]
      rw [hLength] at hNext
      simp only [List.append_assoc, List.singleton_append] at hNext
      rw [offsetsFrom_cons hHere, replaceFrom_cons hHere, ← hNext, List.append_assoc]
  | hit rest ih =>
      have hNext := ih (front ++ passed ++ needle) []
      rw [List.append_nil, List.nil_append] at hNext
      have hCopied : ((front ++ passed ++ needle ++ rest).drop front.length).take
          ((front ++ passed).length - front.length) = passed := by
        simp [List.append_assoc]
      rw [← List.append_assoc (front ++ passed), offsetsFrom_append hNeedle,
        replaceFrom_append hNeedle, spliceFrom, hCopied, ← List.length_append, hNext,
        List.append_assoc]

/-- Splicing at the offsets of the occurrences replaces them all. -/
theorem splice_offsets (hNeedle : needle ≠ []) (value hay : List α) :
    splice hay (offsets needle hay) needle.length value = replaceAll needle value hay :=
  spliceFrom_offsetsFrom hNeedle value [] [] hay

end Stencil.Occurrence
