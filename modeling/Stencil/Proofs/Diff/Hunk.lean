import Mathlib.Data.List.Basic
import Stencil.Diff.Hunk
import Stencil.Proofs.Diff.Script

/-! The difference of two texts as a patch. Each hunk takes a stretch of the old lines away and puts
a stretch of the new lines in its place, and what lies between the hunks is the same in both texts.
So nothing that changed is left out, and the texts are the same only if nothing is shown. -/

namespace Stencil.Diff

variable {α : Type}

/-- The lines that a hunk's place holds before: those that are kept, and those that go. -/
def oldLines (lines : List (Sign × α)) : List α :=
  (lines.filter fun line => line.1 ≠ .added).map Prod.snd

/-- The lines that a hunk's place holds after: those that are kept, and those that come. -/
def newLines (lines : List (Sign × α)) : List α :=
  (lines.filter fun line => line.1 ≠ .removed).map Prod.snd

/-- Hunks that turn one list into another: stretch by stretch the old lines of a hunk stand where
its new lines will stand, and what is passed over is shared. -/
inductive Patches : List (List (Sign × α)) → List α → List α → Prop
  | finished (shared : List α) : Patches [] shared shared
  | next (shared : List α) (hunk : List (Sign × α)) {hunks : List (List (Sign × α))}
      {old new : List α} (later : Patches hunks old new) :
      Patches (hunk :: hunks) (shared ++ oldLines hunk ++ old) (shared ++ newLines hunk ++ new)

namespace Patches

variable {hunks : List (List (Sign × α))} {old new : List α}

/-- What both lists begin with may stand before the first hunk. -/
theorem cons_shared (shared : List α) (hPatches : Patches hunks old new) :
    Patches hunks (shared ++ old) (shared ++ new) := by
  cases hPatches with
  | finished => exact .finished (shared ++ old)
  | next more hunk later => simpa using Patches.next (shared ++ more) hunk later

/-- What both lists end with may stand behind the last hunk. -/
theorem append_shared (hPatches : Patches hunks old new) (shared : List α) :
    Patches hunks (old ++ shared) (new ++ shared) := by
  induction hPatches with
  | finished more => exact .finished (more ++ shared)
  | next more hunk _ ih => simpa using Patches.next more hunk ih

/-- Hunks that only keep lines change nothing. -/
theorem eq_of_kept (hPatches : Patches hunks old new)
    (hKept : ∀ hunk ∈ hunks, ∀ line ∈ hunk, line.1 = .kept) : old = new := by
  induction hPatches with
  | finished => rfl
  | next shared hunk _ ih =>
      obtain ⟨hHere, hLater⟩ := List.forall_mem_cons.mp hKept
      have hOld : oldLines hunk = hunk.map Prod.snd := by
        rw [oldLines, List.filter_eq_self.mpr fun line hLine => by simp [hHere line hLine]]
      have hNew : newLines hunk = hunk.map Prod.snd := by
        rw [newLines, List.filter_eq_self.mpr fun line hLine => by simp [hHere line hLine]]
      rw [hOld, hNew, ih hLater]

theorem mem_of_mem (hPatches : Patches hunks old new) {hunk : List (Sign × α)}
    (hHunk : hunk ∈ hunks) {line : Sign × α} (hLine : line ∈ hunk) :
    line.2 ∈ old ∨ line.2 ∈ new := by
  induction hPatches with
  | finished => cases hHunk
  | next shared first later ih =>
      rcases List.mem_cons.mp hHunk with rfl | hLater
      · by_cases hSign : line.1 = .added
        · right
          have hNew : line.2 ∈ newLines hunk :=
            List.mem_map_of_mem (List.mem_filter.mpr ⟨hLine, by simp [hSign]⟩)
          simp [hNew]
        · left
          have hOld : line.2 ∈ oldLines hunk :=
            List.mem_map_of_mem (List.mem_filter.mpr ⟨hLine, by simp [hSign]⟩)
          simp [hOld]
      · rcases ih hLater with hOld | hNew
        · exact .inl (List.mem_append_right _ hOld)
        · exact .inr (List.mem_append_right _ hNew)

end Patches

namespace Hunk

@[simp] theorem oldLines_nil : oldLines (lines ([] : Hunk α)) = [] := rfl

@[simp] theorem newLines_nil : newLines (lines ([] : Hunk α)) = [] := rfl

@[simp] theorem oldLines_same (items : List α) (hunk : Hunk α) :
    oldLines (lines (.same items :: hunk)) = items ++ oldLines (lines hunk) := by
  simp [lines, Change.lines, oldLines, List.filter_map, Function.comp_def]

@[simp] theorem newLines_same (items : List α) (hunk : Hunk α) :
    newLines (lines (.same items :: hunk)) = items ++ newLines (lines hunk) := by
  simp [lines, Change.lines, newLines, List.filter_map, Function.comp_def]

@[simp] theorem oldLines_change (removed added : List α) (hunk : Hunk α) :
    oldLines (lines (.change removed added :: hunk)) = removed ++ oldLines (lines hunk) := by
  simp [lines, Change.lines, oldLines, List.filter_map, Function.comp_def, List.filter_true,
    List.filter_false]

@[simp] theorem newLines_change (removed added : List α) (hunk : Hunk α) :
    newLines (lines (.change removed added :: hunk)) = added ++ newLines (lines hunk) := by
  simp [lines, Change.lines, newLines, List.filter_map, Function.comp_def, List.filter_true,
    List.filter_false]

@[simp] theorem oldLines_append (hunk other : Hunk α) :
    oldLines (lines (hunk ++ other)) = oldLines (lines hunk) ++ oldLines (lines other) := by
  simp [lines, oldLines]

@[simp] theorem newLines_append (hunk other : Hunk α) :
    newLines (lines (hunk ++ other)) = newLines (lines hunk) ++ newLines (lines other) := by
  simp [lines, newLines]

end Hunk

/-- Gathering edits to changes loses no item of the old list. -/
theorem Script.oldLines_changes (script : Script α) :
    oldLines (Hunk.lines script.changes) = script.old := by
  fun_induction Script.changes script <;> simp_all

theorem Script.newLines_changes (script : Script α) :
    newLines (Hunk.lines script.changes) = script.new := by
  fun_induction Script.changes script <;> simp_all

/-- Hunks that turn what changes say of one list into what they say of the other. -/
def Covers (changes : Hunk α) (hunks : List (Hunk α)) : Prop :=
  Patches (hunks.map Hunk.lines) (oldLines changes.lines) (newLines changes.lines)

/-- The context at both ends of a long stretch does not overlap. -/
theorem take_append_lastItems {items : List α} (hLong : 2 * context < items.length) :
    ∃ middle, items = items.take context ++ (middle ++ lastItems context items) := by
  obtain ⟨middle, hMiddle⟩ : lastItems context items <:+ items.drop context := by
    rw [lastItems, show items.length - context = context + (items.length - 2 * context) by omega,
      ← List.drop_drop]
    exact List.drop_suffix _ _
  exact ⟨middle, by rw [hMiddle, List.take_append_drop]⟩

/-- Cutting in the middle of a long stretch that is kept loses nothing: what is dropped between two
hunks is the same in both lists. -/
theorem covers_divide (pending changes : Hunk α) :
    Covers (pending ++ changes) (divide pending changes) := by
  fun_induction divide pending changes with
  | case1 => exact .finished []
  | case2 items => simpa [Covers] using Patches.finished items
  | case3 pending =>
      rw [List.append_nil]
      simpa [Covers] using Patches.next [] pending.lines (.finished [])
  | case4 pending items changes hLong ih =>
      obtain ⟨middle, hItems⟩ := take_append_lastItems hLong
      generalize items.take context = front at hItems ⊢
      generalize lastItems context items = back at hItems ih ⊢
      subst hItems
      have hNext := Patches.next [] (Hunk.lines (pending ++ [.same front])) (ih.cons_shared middle)
      simpa [Covers] using hNext
  | case5 pending items changes _ ih => simpa using ih
  | case6 pending change changes _ ih => simpa using ih

/-- What is cut off in front of the first hunk is the same in both lists. -/
theorem covers_trimFront {changes : Hunk α} {hunks : List (Hunk α)}
    (hCovers : Covers (trimFront changes) hunks) : Covers changes hunks := by
  unfold trimFront at hCovers
  split at hCovers
  · next items rest =>
      have hWhole := hCovers.cons_shared (items.take (items.length - context))
      simpa [Covers, lastItems, ← List.append_assoc] using hWhole
  · exact hCovers

/-- Only shared items are cut off at the end. -/
theorem exists_trimBack (changes : Hunk α) :
    ∃ cut, oldLines changes.lines = oldLines (Hunk.lines (trimBack changes)) ++ cut ∧
      newLines changes.lines = newLines (Hunk.lines (trimBack changes)) ++ cut := by
  fun_induction trimBack changes with
  | case1 => exact ⟨[], rfl, rfl⟩
  | case2 items => exact ⟨items.drop context, by simp⟩
  | case3 change changes _ ih =>
      obtain ⟨cut, hOld, hNew⟩ := ih
      refine ⟨cut, ?_⟩
      cases change <;> simp [hOld, hNew]

/-- What is cut off behind the last hunk is the same in both lists. -/
theorem covers_trimBack {changes : Hunk α} {hunks : List (Hunk α)}
    (hCovers : Covers (trimBack changes) hunks) : Covers changes hunks := by
  obtain ⟨cut, hOld, hNew⟩ := exists_trimBack changes
  rw [Covers, hOld, hNew]
  exact hCovers.append_shared cut

/-- The hunks of a script show every change, since trimming and cutting drop only what is the same
in both lists. -/
theorem covers_hunks (script : Script α) : Covers script.changes script.hunks :=
  covers_trimFront (covers_trimBack (covers_divide [] _))

/-- The hunks of a script turn the one list it says into the other. -/
theorem Script.Spells.patches {script : Script α} {old new : List α}
    (hScript : script.Spells old new) : Patches (script.hunks.map Hunk.lines) old new := by
  have hPatches := covers_hunks script
  rw [Covers, script.oldLines_changes, script.newLines_changes, hScript.1, hScript.2] at hPatches
  exact hPatches

/-- Where nothing changes there is no hunk. -/
theorem hunks_keeping (items : List α) : (Script.keeping items).hunks = [] := by
  cases items with
  | nil => rfl
  | cons item items =>
      have hFew : ((lastItems context (item :: items)).take context).length ≤ 2 * context := by
        rw [List.length_take, context]
        omega
      have hHunks : (Script.keeping (item :: items)).hunks =
          divide [] [.same ((lastItems context (item :: items)).take context)] := rfl
      rw [hHunks, divide, if_neg (Nat.not_lt.mpr hFew)]
      rfl

end Stencil.Diff

namespace Stencil.Text

/-- A character put in front of the first line is put in front of the text. -/
theorem flatten_prependToLines (c : Char) (lines : List (List Char)) :
    (prependToLines c lines).flatten = c :: lines.flatten := by
  cases lines <;> rfl

/-- The lines of a text, put together, are the text. -/
theorem flatten_lines (text : List Char) : (lines text).flatten = text := by
  fun_induction lines text with
  | case1 => rfl
  | case2 rest ih => simp [ih]
  | case3 c rest _ _ ih => simp [ih]
  | case4 c rest _ _ ih => simp [flatten_prependToLines, ih]

end Stencil.Text

namespace Stencil.Diff

/-- The hunks between two texts lead from the lines of one to the lines of the other. -/
theorem patches_scriptOfTexts (old new : String) :
    Patches ((scriptOfTexts old new).hunks.map Hunk.lines) (Text.lines old.toList)
      (Text.lines new.toList) :=
  ((Script.same_shift _).spells (Script.spells_between _ _)).patches

theorem hunks_scriptOfTexts_self (text : String) : (scriptOfTexts text text).hunks = [] := by
  rw [scriptOfTexts, Script.between_self, Script.shift_keeping, hunks_keeping]

/-- If only kept lines are shown, the texts are the same. -/
theorem eq_of_kept {old new : String}
    (hKept : ∀ hunk ∈ (scriptOfTexts old new).hunks, ∀ line ∈ Hunk.lines hunk, line.1 = .kept) :
    old = new := by
  have hLines := (patches_scriptOfTexts old new).eq_of_kept (by simpa using hKept)
  apply String.toList_inj.mp
  rw [← Text.flatten_lines old.toList, hLines, Text.flatten_lines]

end Stencil.Diff
