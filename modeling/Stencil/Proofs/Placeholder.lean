import Stencil.Proofs.Path
import Stencil.Proofs.Survey.Keys
import Stencil.Substitution.Tokenized

/-! The two ways to read a body. Either all its specifiers are read before the first one is applied,
or each is applied as soon as it is read. The same text comes of both, or the same fault. The key
and the specifiers that a body is taken apart into make up the whole of it again. -/

namespace Stencil

namespace Occurrence

variable {α : Type} [DecidableEq α]

omit [DecidableEq α] in
theorem joinFields_eq_intercalate (separator : α) (parts : List (List α)) :
    joinFields separator parts = [separator].intercalate parts := by
  induction parts with
  | nil => rfl
  | cons part parts ih =>
      cases parts with
      | nil => simp [joinFields]
      | cons other more => simp [joinFields, ih]

theorem cutAt?_eq_some_nil_iff {separator : α} {text : List α} :
    (∃ after, cutAt? separator text = some ([], after)) ↔ text.head? = some separator := by
  cases text with
  | nil => simp [cutAt?]
  | cons a rest =>
      by_cases hHere : a = separator
      · simp [cutAt?, hHere]
      · simp [cutAt?, hHere]

end Occurrence

/-- A list is read up to the first of its members that cannot be read. -/
theorem mapM_eq_error_iff {ε α β : Type} {f : α → Except ε β} {xs : List α} {fault : ε} :
    xs.mapM f = .error fault ↔ ∃ front x back, xs = front ++ x :: back ∧
      (∀ earlier ∈ front, (f earlier).isOk = true) ∧ f x = .error fault := by
  induction xs with
  | nil => simp [pure, Except.pure]
  | cons x xs ih =>
      rw [List.mapM_cons]
      constructor
      · intro hError
        cases hHere : f x with
        | error fault' =>
            rw [hHere] at hError
            cases hError
            exact ⟨[], x, xs, rfl, by simp, hHere⟩
        | ok y =>
            rw [hHere] at hError
            cases hRest : xs.mapM f with
            | ok ys =>
                rw [hRest] at hError
                cases hError
            | error fault' =>
                rw [hRest] at hError
                cases hError
                obtain ⟨front, other, back, rfl, hFront, hFault⟩ := ih.mp hRest
                refine ⟨x :: front, other, back, rfl, ?_, hFault⟩
                exact List.forall_mem_cons.mpr ⟨by rw [hHere]; rfl, hFront⟩
      · rintro ⟨front, other, back, hList, hFront, hFault⟩
        cases front with
        | nil =>
            obtain ⟨rfl, rfl⟩ := List.cons.inj hList
            rw [hFault]
            rfl
        | cons first front =>
            obtain ⟨rfl, rfl⟩ := List.cons.inj hList
            obtain ⟨hFirst, hFront⟩ := List.forall_mem_cons.mp hFront
            rw [ih.mpr ⟨front, other, back, rfl, hFront, hFault⟩]
            cases hHere : f x with
            | error => simp [hHere, Except.isOk, Except.toBool] at hFirst
            | ok y => rfl

/-- Specifiers that are applied one by one are all read first as well. -/
theorem Transformation.applySpecifiers_eq (value : String) (specifiers : List String) :
    applySpecifiers value specifiers =
      (specifiers.mapM parse).map fun transformations => applyAll transformations value := by
  induction specifiers generalizing value with
  | nil => rfl
  | cons specifier specifiers ih =>
      rw [applySpecifiers, List.mapM_cons]
      cases parse specifier with
      | error fault => rfl
      | ok transformation =>
          show applySpecifiers (transformation.apply value) specifiers = _
          rw [ih]
          cases specifiers.mapM parse <;> rfl

theorem Transformation.applySpecifiers_eq_error_iff {value : String} {specifiers : List String}
    {fault : Fault} :
    applySpecifiers value specifiers = .error fault ↔
      ∃ front specifier back, specifiers = front ++ specifier :: back ∧
        (∀ earlier ∈ front, (parse earlier).isOk = true) ∧ parse specifier = .error fault := by
  rw [applySpecifiers_eq, ← mapM_eq_error_iff]
  cases specifiers.mapM parse <;> simp [Except.map]

namespace Placeholder

theorem map_resolve_parse (body value : String) :
    (parse body).map (fun token => token.resolve value) =
      (split body).bind fun (_, specifiers) =>
        Transformation.applySpecifiers value specifiers := by
  rw [parse]
  cases split body with
  | error fault => rfl
  | ok read =>
      show _ = Transformation.applySpecifiers value read.2
      rw [Transformation.applySpecifiers_eq]
      dsimp only
      cases read.2.mapM Transformation.parse <;> rfl

theorem split_eq_ok_iff {body key : String} {specifiers : List String} :
    split body = .ok (key, specifiers) ↔
      baseKeyOf body = .ok key ∧ specifiersOf body = specifiers := by
  rw [split]
  cases baseKeyOf body <;> simp [Except.map]

/-- A body has no key if it is blank, or begins with a colon. -/
theorem split_eq_error_iff {body : String} {fault : Fault} :
    split body = .error fault ↔ fault = .emptyPlaceholder ∧
      (Text.isBlankText body = true ∨ body.toList.head? = some ':') := by
  rw [split, baseKeyOf, ← Occurrence.cutAt?_eq_some_nil_iff]
  cases Text.isBlankText body with
  | true => simp [Except.map, eq_comm]
  | false =>
      rw [if_neg Bool.false_ne_true]
      cases Occurrence.cutAt? ':' body.toList with
      | none => simp [Except.map]
      | some found =>
          obtain ⟨before, after⟩ := found
          cases before <;> simp [Except.map, eq_comm]

/-- What precedes the first colon, and the parts behind it, are the whole body. -/
theorem intercalate_split {body key : String} {specifiers : List String}
    (hSplit : split body = .ok (key, specifiers)) :
    ":".intercalate (key :: specifiers) = body := by
  obtain ⟨hKey, rfl⟩ := split_eq_ok_iff.mp hSplit
  obtain ⟨-, hFront, -⟩ := baseKeyOf_eq_ok_iff.mp hKey
  apply String.toList_inj.mp
  rw [String.toList_intercalate, List.map_cons, specifiersOf]
  show [':'].intercalate _ = _
  rw [← Occurrence.joinFields_eq_intercalate]
  cases hCut : Occurrence.cutAt? ':' body.toList with
  | none =>
      rw [← hFront, Occurrence.takeWhile_of_cutAt?_eq_none hCut]
      rfl
  | some found =>
      obtain ⟨before, after⟩ := found
      obtain ⟨hBody, -⟩ := Occurrence.eq_append_of_cutAt? hCut
      rw [Occurrence.joinFields_cons _ _ (by simp [Occurrence.fields_ne_nil]), ← hFront,
        Occurrence.takeWhile_of_cutAt? hCut, hBody]
      simp [Function.comp_def, Occurrence.joinFields_fields]

theorem colon_not_mem_of_mem_specifiersOf {body specifier : String}
    (hSpecifier : specifier ∈ specifiersOf body) : ':' ∉ specifier.toList := by
  rw [specifiersOf] at hSpecifier
  split at hSpecifier
  · exact absurd hSpecifier List.not_mem_nil
  · obtain ⟨part, hPart, rfl⟩ := List.mem_map.mp hSpecifier
    rw [String.toList_ofList]
    exact Occurrence.not_mem_of_mem_fields hPart

/-- A body comes to the same if its specifiers are all read before any of them is applied, and if
each is applied when it is read. A body without a key is refused before any specifier is looked at,
and after that the first specifier that cannot be read is the one to blame. -/
theorem read_at_once_as_in_turn (body value : String) :
    let atOnce := (parse body).map fun token => token.resolve value
    let inTurn := (split body).bind fun (_, specifiers) =>
      Transformation.applySpecifiers value specifiers
    atOnce = inTurn ∧
    (∀ fault, atOnce = .error fault ↔
      (fault = .emptyPlaceholder ∧
        (Text.isBlankText body = true ∨ body.toList.head? = some ':')) ∨
      ∃ key front specifier back, split body = .ok (key, front ++ specifier :: back) ∧
        (∀ earlier ∈ front, (Transformation.parse earlier).isOk = true) ∧
        Transformation.parse specifier = .error fault) ∧
    (∀ key specifiers, split body = .ok (key, specifiers) →
      baseKeyOf body = .ok key ∧ key ≠ "" ∧ ':' ∉ key.toList ∧
      (∀ specifier ∈ specifiers, ':' ∉ specifier.toList) ∧
      ":".intercalate (key :: specifiers) = body) ∧
    ∀ bytes token, Substitution.Tokenized.placeholder bytes = .ok token →
      Survey.keyOfBody bytes = .ok token.baseKey := by
  intro atOnce inTurn
  have hSame : atOnce = inTurn := map_resolve_parse body value
  refine ⟨hSame, fun fault => ?_, fun key specifiers hSplit => ?_, fun bytes token hToken => ?_⟩
  · rw [hSame, ← split_eq_error_iff]
    cases hSplit : split body with
    | error fault' => simp [inTurn, hSplit, Except.bind]
    | ok read =>
        obtain ⟨key, specifiers⟩ := read
        simp [inTurn, hSplit, Except.bind, Transformation.applySpecifiers_eq_error_iff]
  · obtain ⟨hKey, rfl⟩ := split_eq_ok_iff.mp hSplit
    refine ⟨hKey, (baseKeyOf_eq_ok_iff.mp hKey).2.2, (baseKeyOf_eq_ok hKey).2, ?_,
      intercalate_split hSplit⟩
    exact fun specifier => colon_not_mem_of_mem_specifiersOf
  · apply Substitution.Tokenized.keyOfBody_of_key?
    rw [Substitution.Tokenized.key?, hToken]
    rfl

/-- The first specifier is read, the second one is empty and to blame, and the third is never
looked at. -/
theorem read_at_once_as_in_turn_up_to_empty_specifier :
    let body := " n:gsub(,-)::x"
    let bytes := Text.Utf8.encode " n:gsub(,-)"
    let token : Placeholder := ⟨" n", [.substitute "" "-"]⟩
    split body = .ok (" n", ["gsub(,-)", "", "x"]) ∧
    (parse body).map (fun token => token.resolve "a b") =
      .error (.unsupportedTransformation "") ∧
    ":".intercalate [" n", "gsub(,-)", "", "x"] = body ∧
    Substitution.Tokenized.placeholder bytes = .ok token ∧
    Survey.keyOfBody bytes = .ok token.baseKey := by
  intro body bytes token
  have hSplit : split body = .ok (" n", ["gsub(,-)", "", "x"]) := by decide +kernel
  have hToken : Substitution.Tokenized.placeholder bytes = .ok token := by decide +kernel
  obtain ⟨-, hFault, hParts, hKey⟩ := read_at_once_as_in_turn body "a b"
  refine ⟨hSplit, (hFault _).mpr (.inr ?_), (hParts _ _ hSplit).2.2.2.2, hToken,
    hKey _ _ hToken⟩
  exact ⟨" n", ["gsub(,-)"], "", ["x"], hSplit, by decide +kernel, by decide +kernel⟩

end Placeholder

end Stencil
