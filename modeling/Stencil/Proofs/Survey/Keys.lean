import Mathlib.Data.List.TakeWhile
import Stencil.Proofs.Survey.Conservation
import Stencil.Proofs.Text.Decoding
import Stencil.Substitution.Literal

/-! What the keys of a count can look like. A key stands at the front of a body, before any colon,
and the body ends with the first closing delimiter. So no key has a colon in it, and none ends with
a closing delimiter, as the keys of literal substitution may. -/

namespace Stencil

open Text

namespace Span

/-- No scanned body has a closing delimiter in it. -/
theorem closing_not_infix {opening closing content : Bytes} {span : Span}
    (hSpan : span ∈ scan opening closing content) : ¬ closing <:+: span.body := by
  rw [scan] at hSpan
  split at hSpan
  · exact absurd hSpan List.not_mem_nil
  next hDelimiters =>
  have hClosing : closing ≠ [] := fun hNil => hDelimiters (by simp [hNil])
  generalize 0 = offset at hSpan
  fun_induction scanFrom opening closing offset content with
  | case1 => exact absurd hSpan List.not_mem_nil
  | case2 => exact absurd hSpan List.not_mem_nil
  | case3 offset content gap rest _ body after hClose start stop _ ih =>
      rcases List.mem_cons.mp hSpan with rfl | hLater
      · exact Occurrence.not_infix_of_cut? hClosing hClose
      · exact ih hLater
  | case4 => exact absurd hSpan List.not_mem_nil

end Span

/-- Up to the first separator, if there is one. -/
theorem Occurrence.takeWhile_of_cutAt? {α : Type} [DecidableEq α] {separator : α}
    {text before after : List α} (hCut : cutAt? separator text = some (before, after)) :
    text.takeWhile (· ≠ separator) = before := by
  obtain ⟨rfl, hBefore⟩ := eq_append_of_cutAt? hCut
  rw [List.takeWhile_append_of_pos, List.takeWhile_cons_of_neg (by simp), List.append_nil]
  intro a hMem
  exact decide_eq_true fun hSame => hBefore (hSame ▸ hMem)

theorem Occurrence.takeWhile_of_cutAt?_eq_none {α : Type} [DecidableEq α] {separator : α}
    {text : List α} (hCut : cutAt? separator text = none) :
    text.takeWhile (· ≠ separator) = text := by
  rw [List.takeWhile_eq_self_iff]
  intro a hMem
  exact decide_eq_true fun hSame => cutAt?_eq_none_iff.mp hCut (hSame ▸ hMem)

/-- The key of a body is what stands before the first colon, if the body is not blank and there is
anything. -/
theorem Placeholder.baseKeyOf_eq_ok_iff {body key : String} :
    baseKeyOf body = .ok key ↔
      isBlankText body = false ∧ body.toList.takeWhile (· ≠ ':') = key.toList ∧ key ≠ "" := by
  rw [baseKeyOf]
  cases hBlank : isBlankText body with
  | true => simp
  | false =>
      rw [if_neg Bool.false_ne_true]
      cases hCut : Occurrence.cutAt? ':' body.toList with
      | none =>
          have hBody : body ≠ "" := by
            rintro rfl
            cases hBlank
          rw [Occurrence.takeWhile_of_cutAt?_eq_none hCut, String.toList_inj]
          constructor
          · rintro hSame
            obtain rfl := Except.ok.inj hSame
            exact ⟨rfl, rfl, hBody⟩
          · rintro ⟨-, rfl, -⟩
            rfl
      | some found =>
          obtain ⟨before, after⟩ := found
          rw [Occurrence.takeWhile_of_cutAt? hCut]
          cases before with
          | nil =>
              have hEmpty : [] = key.toList ↔ key = "" := by
                rw [eq_comm, String.toList_eq_nil_iff]
              simp [hEmpty]
          | cons c before =>
              constructor
              · rintro hSame
                obtain rfl := Except.ok.inj hSame
                refine ⟨rfl, String.toList_ofList.symm, fun hNil => ?_⟩
                rw [← String.toList_eq_nil_iff, String.toList_ofList] at hNil
                cases hNil
              · rintro ⟨-, hKey, -⟩
                dsimp only
                rw [hKey, String.ofList_toList]

theorem Placeholder.baseKeyOf_eq_ok {body key : String} (hKey : baseKeyOf body = .ok key) :
    key.toList <+: body.toList ∧ ':' ∉ key.toList := by
  obtain ⟨-, hFront, -⟩ := baseKeyOf_eq_ok_iff.mp hKey
  rw [← hFront]
  exact ⟨List.takeWhile_prefix _, fun hMem => by simpa using List.mem_takeWhile_imp hMem⟩

namespace Survey

/-- A body names a key: it is a text that is not blank, and in front of its first colon, if it has
any, stands the key. -/
def Names (key : String) (body : Bytes) : Prop :=
  ∃ text, Utf8.encode text = body ∧ isBlankText text = false ∧
    text.toList.takeWhile (· ≠ ':') = key.toList ∧ key ≠ ""

/-- A body names the key that is recorded for it. -/
theorem names_iff {key : String} {body : Bytes} : Names key body ↔ keyOfBody body = .ok key := by
  rw [keyOfBody]
  constructor
  · rintro ⟨text, rfl, hText⟩
    rw [Utf8.decode?_encode]
    exact Placeholder.baseKeyOf_eq_ok_iff.mpr hText
  · cases hText : Utf8.decode? body with
    | none => exact nofun
    | some text =>
        exact fun hKey => ⟨text, Utf8.encode_of_decode? hText,
          Placeholder.baseKeyOf_eq_ok_iff.mp hKey⟩

instance (key : String) (body : Bytes) : Decidable (Names key body) :=
  decidable_of_iff ((keyOfBody body).toOption = some key)
    (toOption_eq_some_iff.trans names_iff.symm)

/-- A key stands at the start of its body and holds no colon. -/
theorem keyOfBody_eq_ok {body : Bytes} {key : String} (hKey : keyOfBody body = .ok key) :
    Utf8.encode key <+: body ∧ ':' ∉ key.toList := by
  rw [keyOfBody] at hKey
  split at hKey
  · cases hKey
  next text hText =>
  obtain ⟨⟨rest, hPrefix⟩, hColon⟩ := Placeholder.baseKeyOf_eq_ok hKey
  refine ⟨⟨Utf8.encodeChars rest, ?_⟩, hColon⟩
  rw [← Utf8.encode_of_decode? hText, Utf8.encode, Utf8.encode, ← hPrefix, Utf8.encodeChars,
    Utf8.encodeChars, Utf8.encodeChars, List.flatMap_append]

/-- A counted key is not wrapped in the delimiters, and has no colon. -/
theorem not_wrapped_of_usable {opening closing : String} {content : Bytes} {key : String}
    (hKey : key ∈ usable (keys opening closing content)) :
    Substitution.Literal.isWrapped opening closing key = false ∧ ':' ∉ key.toList := by
  rw [usable_keys] at hKey
  obtain ⟨span, hSpan, hUsable⟩ := List.mem_filterMap.mp hKey
  obtain ⟨hPrefix, hColon⟩ := keyOfBody_eq_ok (toOption_eq_some_iff.mp hUsable)
  refine ⟨Bool.eq_false_iff.mpr fun hWrapped => ?_, hColon⟩
  rw [Substitution.Literal.isWrapped, Bool.and_eq_true, List.isSuffixOf_iff_suffix] at hWrapped
  obtain ⟨front, hFront⟩ := hWrapped.2
  refine Span.closing_not_infix hSpan (List.IsInfix.trans ?_ hPrefix.isInfix)
  refine ⟨Utf8.encodeChars front, [], ?_⟩
  rw [Utf8.encode, Utf8.encode, ← hFront, Utf8.encodeChars, Utf8.encodeChars, Utf8.encodeChars,
    List.flatMap_append, List.append_nil]

end Survey

end Stencil
