import Stencil.Substitution.Literal

/-! Literal keys, one after the other. No key takes back what an earlier one counted, so where
nothing was counted in the end, no key was found on the way. -/

namespace Stencil.Substitution.Literal

variable {opening closing : String} {table : Table String String}

theorem count_le_substituteKey (done : Substituted) (entry : String × String) :
    done.count ≤ (substituteKey opening closing table done entry).count := by
  rw [substituteKey]
  split
  · exact Nat.le_refl _
  · exact Nat.le_add_right _ _

/-- A key that is not found changes nothing. -/
theorem content_substituteKey {done : Substituted} {entry : String × String}
    (hCount : (substituteKey opening closing table done entry).count = done.count) :
    (substituteKey opening closing table done entry).content = done.content := by
  rw [substituteKey] at hCount ⊢
  split at hCount
  · next hToken => rw [if_pos hToken]
  · next hToken =>
      rw [if_neg hToken]
      have hOffsets : Occurrence.offsets
          (Text.Utf8.encode (searchToken opening closing entry.1)) done.content = [] :=
        List.length_eq_zero_iff.mp (Nat.left_eq_add.mp hCount.symm)
      simp [hOffsets, Occurrence.splice, Occurrence.spliceFrom]

theorem count_le_foldl (entries : List (String × String)) (done : Substituted) :
    done.count ≤ (entries.foldl (substituteKey opening closing table) done).count := by
  induction entries generalizing done with
  | nil => exact Nat.le_refl _
  | cons entry entries ih => exact Nat.le_trans (count_le_substituteKey done entry) (ih _)

theorem content_foldl {entries : List (String × String)} {done : Substituted}
    (hCount : (entries.foldl (substituteKey opening closing table) done).count = done.count) :
    (entries.foldl (substituteKey opening closing table) done).content = done.content := by
  induction entries generalizing done with
  | nil => rfl
  | cons entry entries ih =>
      rw [List.foldl_cons] at hCount ⊢
      have hUp : done.count ≤ (substituteKey opening closing table done entry).count :=
        count_le_substituteKey done entry
      have hRest : (substituteKey opening closing table done entry).count ≤
          (entries.foldl (substituteKey opening closing table)
            (substituteKey opening closing table done entry)).count :=
        count_le_foldl entries _
      have hHere : (substituteKey opening closing table done entry).count = done.count := by
        omega
      rw [ih (by omega), content_substituteKey hHere]

/-- A content in which nothing is replaced is left as it is. -/
theorem content_of_count_eq_zero {replacements : Table String String} {values : Values}
    {content : Bytes}
    (hCount : (substitute opening closing replacements values content).count = 0) :
    (substitute opening closing replacements values content).content = content := by
  have hStart : (Substituted.unchanged content).count = 0 := rfl
  exact content_foldl (hCount.trans hStart.symm)

end Stencil.Substitution.Literal
