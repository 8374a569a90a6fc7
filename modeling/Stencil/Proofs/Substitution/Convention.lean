import Stencil.Proofs.Occurrence.Parting
import Stencil.Substitution.Literal

/-! What the markers in a key do to its value. The table of texts to replace is gone through once,
and each entry sees what the entries before it left. -/

namespace Stencil.Substitution.Literal

/-- What the entries of a table make of a value, one after the other. Each text gives way to what is
to stand in its place between the gaps of the value, and the empty text is passed over. -/
inductive Revises : List (String × String) → List Char → List Char → Prop
  | done {value : List Char} : Revises [] value value
  | passed {replacement : String} {entries : List (String × String)} {value after : List Char}
      (hLater : Revises entries value after) :
      Revises (("", replacement) :: entries) value after
  | replaced {text replacement : String} {entries : List (String × String)}
      {value last after : List Char} {gaps : List (List Char)} (hText : text ≠ "")
      (hParts : Occurrence.Parts text.toList value gaps last)
      (hLater : Revises entries (Occurrence.weave replacement.toList last gaps) after) :
      Revises ((text, replacement) :: entries) value after

theorem Revises.foldl_eq {entries : List (String × String)} {value after : List Char}
    (hRevises : Revises entries value after) :
    entries.foldl replaceText (String.ofList value) = String.ofList after := by
  induction hRevises with
  | done => rfl
  | passed _ ih => exact ih
  | replaced hText hParts _ ih =>
      rw [List.foldl_cons, replaceText, if_neg (mt String.isEmpty_iff.mp hText), String.toList_ofList,
        Occurrence.replaceAll, hParts.replaceFrom_eq (mt String.toList_eq_nil_iff.mp hText), ih]

theorem exists_revises (entries : List (String × String)) (value : List Char) :
    ∃ after, Revises entries value after := by
  induction entries generalizing value with
  | nil => exact ⟨value, .done⟩
  | cons entry entries ih =>
      obtain ⟨text, replacement⟩ := entry
      by_cases hText : text = ""
      · obtain ⟨after, hLater⟩ := ih value
        exact ⟨after, hText ▸ .passed hLater⟩
      · obtain ⟨gaps, last, hParts⟩ :=
          Occurrence.exists_parts (mt String.toList_eq_nil_iff.mp hText) value
        obtain ⟨after, hLater⟩ := ih (Occurrence.weave replacement.toList last gaps)
        exact ⟨after, .replaced hText hParts hLater⟩

/-- The value of a key that asks for it is revised by the table, after its case was changed. -/
theorem revises_iff_conventional {key value : String} {table : Table String String}
    {after : List Char} (hKey : carries key "APPLY_REPLACE" = true) :
    Revises table.entries (conventionalCase key value).toList after ↔
      (conventional key value table).toList = after := by
  have hFold {other : List Char}
      (hRevises : Revises table.entries (conventionalCase key value).toList other) :
      (conventional key value table).toList = other := by
    rw [conventional, if_pos hKey, ← String.ofList_toList (s := conventionalCase key value),
      hRevises.foldl_eq, String.toList_ofList]
  refine ⟨hFold, ?_⟩
  rintro rfl
  obtain ⟨other, hRevises⟩ := exists_revises table.entries (conventionalCase key value).toList
  exact hFold hRevises ▸ hRevises

end Stencil.Substitution.Literal
