import Mathlib.Data.List.Forall2

/-! Reading a list member by member, each of which may fail. -/

namespace Stencil

variable {α β ε : Type}

/-- What is written member by member is read back, if each member is. -/
theorem mapM_map_eq_pure {m : Type → Type} [Monad m] [LawfulMonad m] {read : β → m α}
    {write : α → β} {xs : List α} (hRead : ∀ x ∈ xs, read (write x) = pure x) :
    (xs.map write).mapM read = pure xs := by
  induction xs with
  | nil => rfl
  | cons x xs ih =>
      obtain ⟨hHere, hRest⟩ := List.forall_mem_cons.mp hRead
      simp [hHere, ih hRest]

theorem mapM_eq_ok_iff {read : α → Except ε β} {xs : List α} {ys : List β} :
    xs.mapM read = .ok ys ↔ List.Forall₂ (fun x y => read x = .ok y) xs ys := by
  induction xs generalizing ys with
  | nil => cases ys <;> simp [pure, Except.pure]
  | cons x xs ih =>
      rw [List.mapM_cons]
      cases hHere : read x with
      | error fault => cases ys <;> simp [hHere, bind, Except.bind]
      | ok y =>
          cases hRest : xs.mapM read with
          | error fault => cases ys <;> simp [hHere, hRest, ← ih, bind, Except.bind]
          | ok more =>
              cases ys <;> simp [hHere, hRest, ← ih, bind, Except.bind, pure, Except.pure]

/-- Each member that comes of reading a list was read from a member of it. -/
theorem exists_mem_of_mapM {read : α → Except ε β} {xs : List α} {ys : List β}
    (hRead : xs.mapM read = .ok ys) {y : β} (hMem : y ∈ ys) : ∃ x ∈ xs, read x = .ok y := by
  have hPaired := mapM_eq_ok_iff.mp hRead
  clear hRead
  induction hPaired with
  | nil => exact absurd hMem List.not_mem_nil
  | @cons x y' xs ys hHere _ ih =>
      rcases List.mem_cons.mp hMem with rfl | hMem
      · exact ⟨x, List.mem_cons_self, hHere⟩
      · obtain ⟨other, hOther, hSame⟩ := ih hMem
        exact ⟨other, List.mem_cons_of_mem _ hOther, hSame⟩

end Stencil
