import Mathlib.Data.List.TakeDrop
import Stencil.Diff.Shift

/-! What an edit script says both lists are. A script between two lists says them, wherever a path is
divided, and moving blocks together keeps what a script says. -/

namespace Stencil.Diff

variable {α : Type} [DecidableEq α]

/-! What two lists share at their start and at their end. -/

/-- Both lists begin with the same items, as many as their common prefix is long. -/
theorem take_commonPrefixLength (as bs : List α) :
    as.take (commonPrefixLength as bs) = bs.take (commonPrefixLength as bs) := by
  fun_induction commonPrefixLength as bs with
  | case1 a as bs ih => simp [ih]
  | case2 => simp
  | case3 => simp

theorem commonPrefixLength_self (as : List α) : commonPrefixLength as as = as.length := by
  induction as with
  | nil => rfl
  | cons a as ih => simp [commonPrefixLength, ih]

/-- Both lists end with the same items, as many as their common suffix is long. -/
theorem drop_commonSuffixLength (as bs : List α) :
    as.drop (as.length - commonSuffixLength as bs) =
      bs.drop (bs.length - commonSuffixLength as bs) := by
  have hShared := congrArg List.reverse (take_commonPrefixLength as.reverse bs.reverse)
  simpa [commonSuffixLength, List.reverse_take] using hShared

namespace Script

omit [DecidableEq α]

@[simp] theorem old_nil : old ([] : Script α) = [] := rfl

@[simp] theorem new_nil : new ([] : Script α) = [] := rfl

@[simp] theorem old_keep (items : List α) (script : Script α) :
    old (.keep items :: script) = items ++ script.old := rfl

@[simp] theorem old_delete (items : List α) (script : Script α) :
    old (.delete items :: script) = items ++ script.old := rfl

@[simp] theorem old_insert (items : List α) (script : Script α) :
    old (.insert items :: script) = script.old := rfl

@[simp] theorem new_keep (items : List α) (script : Script α) :
    new (.keep items :: script) = items ++ script.new := rfl

@[simp] theorem new_delete (items : List α) (script : Script α) :
    new (.delete items :: script) = script.new := rfl

@[simp] theorem new_insert (items : List α) (script : Script α) :
    new (.insert items :: script) = items ++ script.new := rfl

/-- What a script says of the old list it says part by part. -/
@[simp] theorem old_append (script other : Script α) :
    old (script ++ other) = script.old ++ other.old := by
  simp [old]

@[simp] theorem new_append (script other : Script α) :
    new (script ++ other) = script.new ++ other.new := by
  simp [new]

@[simp] theorem old_keeping (items : List α) : old (keeping items) = items := by
  cases items <;> simp [keeping]

@[simp] theorem new_keeping (items : List α) : new (keeping items) = items := by
  cases items <;> simp [keeping]

/-- A script says what two lists are. -/
def Spells (script : Script α) (old new : List α) : Prop := script.old = old ∧ script.new = new

/-- Scripts between the parts of two lists are together one between the whole lists. -/
theorem Spells.append {script script' : Script α} {old old' new new' : List α}
    (hScript : script.Spells old new) (hScript' : script'.Spells old' new') :
    (script ++ script').Spells (old ++ old') (new ++ new') := by
  obtain ⟨rfl, rfl⟩ := hScript
  obtain ⟨rfl, rfl⟩ := hScript'
  exact ⟨old_append script script', new_append script script'⟩

/-- A script that keeps all items leads from a list to itself. -/
theorem spells_keeping (items : List α) : (keeping items).Spells items items :=
  ⟨old_keeping items, new_keeping items⟩

/-- Whatever point a path is divided at, the script between two lists says what they are. -/
theorem spells_between [DecidableEq α] (old new : List α) : (between old new).Spells old new := by
  fun_induction between old new with
  | case1 old new front old' new' back a b inner ih ih' =>
      have hInner : inner.Spells a b := by
        dsimp only [inner]
        split_ifs with hBoth hNew hOld
        · simp_all [Spells]
        · simp_all [Spells]
        · simp_all [Spells]
        · split
          · simp [Spells]
          · next x y _ =>
              split
              · next hSmaller =>
                  have hHalves := (ih x y hSmaller).append (ih' x y hSmaller)
                  rwa [List.take_append_drop, List.take_append_drop] at hHalves
              · simp [Spells]
      have hOld : old.take front ++ (a ++ old'.drop (old'.length - back)) = old := by
        rw [List.take_append_drop, List.take_append_drop]
      have hNew : old.take front ++ (b ++ old'.drop (old'.length - back)) = new := by
        rw [take_commonPrefixLength, drop_commonSuffixLength, List.take_append_drop,
          List.take_append_drop]
      have hWhole := (spells_keeping (old.take front)).append
        (hInner.append (spells_keeping (old'.drop (old'.length - back))))
      rwa [hOld, hNew, ← List.append_assoc] at hWhole

/-- A list and itself differ nowhere. -/
theorem between_self [DecidableEq α] (items : List α) : between items items = keeping items := by
  rw [between]
  simp [commonPrefixLength_self, commonSuffixLength, keeping]

end Script

/-! Moving a block through a script. -/

section Moving

omit [DecidableEq α]

/-- A shared stretch joins the one that is there already, so that no two stand side by side. -/
@[simp] theorem old_keepBefore (items : List α) (script : Script α) :
    Script.old (keepBefore items script) = items ++ script.old := by
  unfold keepBefore
  split <;> simp

@[simp] theorem new_keepBefore (items : List α) (script : Script α) :
    Script.new (keepBefore items script) = items ++ script.new := by
  unfold keepBefore
  split <;> simp

/-- Of an empty rest nothing is put in front. -/
@[simp] theorem old_keepRest (items : List α) (script : Script α) :
    Script.old (keepRest items script) = items ++ script.old := by
  cases items <;> simp [keepRest]

@[simp] theorem new_keepRest (items : List α) (script : Script α) :
    Script.new (keepRest items script) = items ++ script.new := by
  cases items <;> simp [keepRest]

@[simp] theorem old_reverse_keepRest (items : List α) (script : Script α) :
    Script.old (keepRest items script).reverse = Script.old script.reverse ++ items := by
  cases items <;> simp [keepRest]

@[simp] theorem new_reverse_keepRest (items : List α) (script : Script α) :
    Script.new (keepRest items script).reverse = Script.new script.reverse ++ items := by
  cases items <;> simp [keepRest]

/-- In front of a block the script stands backwards, and what is kept there comes last. -/
@[simp] theorem old_reverse_keepAfter (items : List α) (script : Script α) :
    Script.old (keepAfter items script).reverse = Script.old script.reverse ++ items := by
  unfold keepAfter
  split <;> simp

@[simp] theorem new_reverse_keepAfter (items : List α) (script : Script α) :
    Script.new (keepAfter items script).reverse = Script.new script.reverse ++ items := by
  unfold keepAfter
  split <;> simp

end Moving

/-- Scripts that say the same of both lists. -/
def Script.Same (script other : Script α) : Prop :=
  script.old = other.old ∧ script.new = other.new

namespace Script.Same

omit [DecidableEq α]

theorem refl (script : Script α) : script.Same script := ⟨rfl, rfl⟩

theorem trans {script other third : Script α} (hFirst : script.Same other)
    (hSecond : other.Same third) : script.Same third :=
  ⟨hFirst.1.trans hSecond.1, hFirst.2.trans hSecond.2⟩

/-- What says the same of both lists as a script between them is such a script too. -/
theorem spells {script other : Script α} {old new : List α} (hSame : script.Same other)
    (hOther : other.Spells old new) : script.Spells old new :=
  ⟨hSame.1.trans hOther.1, hSame.2.trans hOther.2⟩

end Script.Same

namespace Focus

/-- The whole script around a block. -/
def script (focus : Focus α) : Script α := focus.before.reverse ++ focus.edit :: focus.after

section

omit [DecidableEq α]

/-- Items that repeat the end of the shared block before them slide up along it. -/
theorem same_slideUp (stays moves items : List α) (before after : Script α) :
    (script ⟨keepRest stays before, .insert (moves ++ items), keepBefore moves after⟩).Same
      (script ⟨.keep (stays ++ moves) :: before, .insert (items ++ moves), after⟩) := by
  simp [Script.Same, script]

/-- Items that repeat the start of the shared block after them slide down along it. -/
theorem same_slideDown (moves stays items : List α) (before after : Script α) :
    (script ⟨keepAfter moves before, .insert (items ++ moves), keepRest stays after⟩).Same
      (script ⟨before, .insert (moves ++ items), .keep (moves ++ stays) :: after⟩) := by
  simp [Script.Same, script]

end

/-- A block that rises leaves a script between the same lists. The cases are those of the loop, and
only the slide along shared items has something to show. -/
theorem same_up (focus : Focus α) (fuel : Nat) : (focus.up fuel).script.Same focus.script := by
  fun_induction Focus.up focus fuel with
  | case1 => exact .refl _
  | case2 focus fuel kept before items hEdit hBefore _ _ hEmpty ih =>
      exact ih.trans (by simp_all [Script.Same, script])
  | case3 => exact .refl _
  | case4 focus fuel kept before items hEdit hBefore shared _ stays moves ih =>
      have hMoves : items.drop (items.length - shared) = moves :=
        (drop_commonSuffixLength kept items).symm
      have hKept : stays ++ moves = kept := List.take_append_drop _ kept
      have hItems : items.take (items.length - shared) ++ moves = items := by
        rw [← hMoves, List.take_append_drop]
      have hSlide := same_slideUp stays moves (items.take (items.length - shared)) before
        focus.after
      rw [hKept, hItems] at hSlide
      rw [hMoves] at ih ⊢
      refine ih.trans (hSlide.trans ?_)
      simp [Script.Same, script, hEdit, hBefore]
  | case5 focus fuel kept before items hEdit hBefore hEmpty ih =>
      exact ih.trans (by simp_all [Script.Same, script])
  | case6 => exact .refl _
  | case7 focus fuel other before items hEdit hBefore ih =>
      exact ih.trans (by simp [Script.Same, script, hEdit, hBefore])
  | case8 focus fuel other before items hEdit hBefore ih =>
      exact ih.trans (by simp [Script.Same, script, hEdit, hBefore])
  | case9 focus fuel other before items hEdit hBefore ih =>
      exact ih.trans (by simp [Script.Same, script, hEdit, hBefore])
  | case10 focus fuel other before items hEdit hBefore ih =>
      exact ih.trans (by simp [Script.Same, script, hEdit, hBefore])
  | case11 => exact .refl _

/-- A block that sinks leaves a script between the same lists. -/
theorem same_down (focus : Focus α) (fuel : Nat) : (focus.down fuel).script.Same focus.script := by
  fun_induction Focus.down focus fuel with
  | case1 => exact .refl _
  | case2 focus fuel kept after items hEdit hAfter _ _ hEmpty ih =>
      exact ih.trans (by simp_all [Script.Same, script])
  | case3 => exact .refl _
  | case4 focus fuel kept after items hEdit hAfter shared _ ih =>
      have hMoves : items.take shared = kept.take shared :=
        (take_commonPrefixLength kept items).symm
      have hKept : kept.take shared ++ kept.drop shared = kept := List.take_append_drop _ kept
      have hItems : kept.take shared ++ items.drop shared = items := by
        rw [← hMoves, List.take_append_drop]
      have hSlide := same_slideDown (kept.take shared) (kept.drop shared) (items.drop shared)
        focus.before after
      rw [hKept, hItems] at hSlide
      refine ih.trans (hSlide.trans ?_)
      simp [Script.Same, script, hEdit, hAfter]
  | case5 focus fuel kept after items hEdit hAfter hEmpty ih =>
      exact ih.trans (by simp_all [Script.Same, script])
  | case6 => exact .refl _
  | case7 focus fuel other after items hEdit hAfter ih =>
      exact ih.trans (by simp [Script.Same, script, hEdit, hAfter])
  | case8 focus fuel other after items hEdit hAfter ih =>
      exact ih.trans (by simp [Script.Same, script, hEdit, hAfter])
  | case9 focus fuel other after items hEdit hAfter ih =>
      exact ih.trans (by simp [Script.Same, script, hEdit, hAfter])
  | case10 focus fuel other after items hEdit hAfter ih =>
      exact ih.trans (by simp [Script.Same, script, hEdit, hAfter])
  | case11 => exact .refl _

end Focus

/-- Moving all chosen blocks in turn keeps what the script says: each is lifted and lowered within
the whole script, and the next one starts from what that has left. -/
theorem same_shiftBlocks (chosen : Edit α → Bool) (before : Script α) (fuel : Nat)
    (after : Script α) :
    Script.Same (shiftBlocks chosen before fuel after) (before.reverse ++ after) := by
  fun_induction shiftBlocks chosen before fuel after with
  | case1 => exact .refl _
  | case2 => simp [Script.Same]
  | case3 before fuel edit after _ risen moved ih =>
      have hMoved : moved.script.Same (Focus.script ⟨before, edit, after⟩) :=
        (Focus.same_down risen _).trans (Focus.same_up ⟨before, edit, after⟩ _)
      exact ih.trans (by simpa [Focus.script] using hMoved)
  | case4 before fuel edit after _ ih => simpa using ih

/-- Where no block is chosen, none is moved. -/
theorem shiftBlocks_of_none {chosen : Edit α → Bool} {after : Script α}
    (hNone : ∀ edit ∈ after, chosen edit = false) (before : Script α) (fuel : Nat) :
    shiftBlocks chosen before fuel after = before.reverse ++ after := by
  fun_induction shiftBlocks chosen before fuel after with
  | case1 => rfl
  | case2 => simp
  | case3 before fuel edit after hHere => simp [hNone edit List.mem_cons_self] at hHere
  | case4 before fuel edit after _ ih =>
      rw [ih fun other hOther => hNone other (List.mem_cons_of_mem _ hOther)]
      simp

namespace Script

/-- Moving first the deleted and then the inserted blocks keeps what the script says. -/
theorem same_shift (script : Script α) : script.shift.Same script :=
  (same_shiftBlocks _ [] _ _).trans (same_shiftBlocks _ [] _ _)

/-- Where everything is kept there is no block to move. -/
theorem shift_keeping (items : List α) : (keeping items).shift = keeping items := by
  have hNone : ∀ edit ∈ keeping items, edit.isDelete = false ∧ edit.isInsert = false := by
    cases items <;> simp [keeping, Edit.isDelete, Edit.isInsert]
  rw [shift, shiftBlocks_of_none fun edit hEdit => (hNone edit hEdit).1]
  exact shiftBlocks_of_none (fun edit hEdit => (hNone edit hEdit).2) [] _

end Script

end Stencil.Diff
