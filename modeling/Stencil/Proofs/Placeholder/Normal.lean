import Stencil.Proofs.Placeholder
import Stencil.Proofs.Traversal

/-! The specifier that names a transformation. It is read as that transformation unless the text to
replace has a comma in it, and reading never comes to such a transformation. So a body may be
exchanged for the one that its placeholder is written as. -/

namespace Stencil

namespace Occurrence

variable {α : Type} [DecidableEq α] {separator : α}

theorem beforeLast?_eq_none_iff {text : List α} :
    beforeLast? separator text = none ↔ separator ∉ text := by
  induction text with
  | nil => simp [beforeLast?]
  | cons a text ih =>
      rw [beforeLast?]
      cases hRest : beforeLast? separator text with
      | some before =>
          have hMem : separator ∈ text := by
            by_contra hOut
            rw [ih.mpr hOut] at hRest
            cases hRest
          simp [hMem]
      | none => simp [ih.mp hRest, eq_comm]

theorem beforeLast?_append (before : List α) {after : List α} (hAfter : separator ∉ after) :
    beforeLast? separator (before ++ separator :: after) = some before := by
  induction before with
  | nil => simp [beforeLast?, beforeLast?_eq_none_iff.mpr hAfter]
  | cons a before ih => simp [beforeLast?, ih]

/-- A text is divided at the last separator. -/
theorem beforeLast?_eq_some_iff {text before : List α} :
    beforeLast? separator text = some before ↔
      ∃ after, text = before ++ separator :: after ∧ separator ∉ after := by
  refine ⟨fun hText => ?_, fun ⟨after, hText, hAfter⟩ => hText ▸ beforeLast?_append before hAfter⟩
  induction text generalizing before with
  | nil => cases hText
  | cons a text ih =>
      rw [beforeLast?] at hText
      split at hText
      · next found hRest =>
          cases hText
          obtain ⟨after, rfl, hAfter⟩ := ih hRest
          exact ⟨after, rfl, hAfter⟩
      · next hRest =>
          split at hText
          · next hHere =>
              cases hText
              exact ⟨text, hHere ▸ rfl, beforeLast?_eq_none_iff.mp hRest⟩
          · cases hText

/-- A text is divided at the first separator. -/
theorem cutAt?_eq_some_iff {text before after : List α} :
    cutAt? separator text = some (before, after) ↔
      text = before ++ separator :: after ∧ separator ∉ before := by
  refine ⟨eq_append_of_cutAt?, ?_⟩
  rintro ⟨rfl, hBefore⟩
  induction before with
  | nil => simp [cutAt?]
  | cons a before ih =>
      obtain ⟨hHere, hRest⟩ := List.ne_and_not_mem_of_not_mem_cons hBefore
      simp [cutAt?, Ne.symm hHere, ih hRest]

end Occurrence

namespace Transformation

open Occurrence

/-- The specifiers that name a transformation. What follows a name that is complete counts for
nothing; the last parenthesis ends the arguments, and the first comma divides them. -/
def NamedBy (specifier : String) : Transformation → Prop
  | upperCase => "toUpperCase".toList <+: specifier.toList
  | lowerCase =>
      "toLowerCase".toList <+: specifier.toList ∨ "toDownCase".toList <+: specifier.toList
  | substitute old new =>
      ',' ∉ old.toList ∧
        ∃ after, specifier = (substitute old new).display ++ after ∧ ')' ∉ after.toList

theorem toList_display_substitute (old new : String) :
    (substitute old new).display.toList =
      "gsub(".toList ++ (old.toList ++ ',' :: (new.toList ++ [')'])) := by
  simp [display]

/-- The arguments end at the first comma and the last parenthesis. What stands behind it is passed
over. -/
theorem arguments?_eq_some_iff {text old new : List Char} :
    arguments? text = some (old, new) ↔
      ',' ∉ old ∧ ∃ after, text = old ++ ',' :: (new ++ ')' :: after) ∧ ')' ∉ after := by
  simp only [arguments?, Option.bind_eq_some_iff, beforeLast?_eq_some_iff, cutAt?_eq_some_iff]
  constructor
  · rintro ⟨_, ⟨after, rfl, hAfter⟩, rfl, hOld⟩
    exact ⟨hOld, after, by simp, hAfter⟩
  · rintro ⟨hOld, after, rfl, hAfter⟩
    exact ⟨_, ⟨after, by simp, hAfter⟩, rfl, hOld⟩

/-- A text does not begin with two names of which neither is the front of the other. -/
theorem isPrefixOf_eq_false {name other text : List Char} (hName : name <+: text)
    (hFront : name.isPrefixOf other = false) (hBack : other.isPrefixOf name = false) :
    other.isPrefixOf text = false := by
  rw [Bool.eq_false_iff, ne_eq, List.isPrefixOf_iff_prefix] at hFront hBack ⊢
  intro hOther
  exact (List.prefix_or_prefix_of_prefix hName hOther).elim hFront hBack

theorem namedBy_of_parse {specifier : String} {transformation : Transformation}
    (hParse : parse specifier = .ok transformation) : transformation.NamedBy specifier := by
  rw [parse] at hParse
  split at hParse
  · next hUpper =>
      cases hParse
      exact List.isPrefixOf_iff_prefix.mp hUpper
  · split at hParse
    · next hLower =>
        cases hParse
        simpa [NamedBy, List.isPrefixOf_iff_prefix] using hLower
    · split at hParse
      · cases hParse
      · next rest hRest =>
          split at hParse
          · cases hParse
          · next old new hArguments =>
              cases hParse
              obtain ⟨hOld, after, hText, hAfter⟩ := arguments?_eq_some_iff.mp hArguments
              refine ⟨by simpa using hOld, String.ofList after, ?_, by simpa using hAfter⟩
              apply String.toList_inj.mp
              rw [String.toList_append, toList_display_substitute,
                afterFront?_eq_some_iff.mp hRest, hText]
              simp

theorem NamedBy.parse_eq {specifier : String} {transformation : Transformation}
    (hNamed : transformation.NamedBy specifier) : parse specifier = .ok transformation := by
  cases transformation with
  | upperCase => rw [parse, if_pos (List.isPrefixOf_iff_prefix.mpr hNamed)]
  | lowerCase =>
      have hUpper : "toUpperCase".toList.isPrefixOf specifier.toList = false :=
        hNamed.elim (fun hName => isPrefixOf_eq_false hName (by decide) (by decide))
          fun hName => isPrefixOf_eq_false hName (by decide) (by decide)
      have hLower : ("toLowerCase".toList.isPrefixOf specifier.toList ||
          "toDownCase".toList.isPrefixOf specifier.toList) = true := by
        rw [Bool.or_eq_true, List.isPrefixOf_iff_prefix, List.isPrefixOf_iff_prefix]
        exact hNamed
      rw [parse, hUpper, if_neg Bool.false_ne_true, if_pos hLower]
  | substitute old new =>
      obtain ⟨hOld, after, rfl, hAfter⟩ := hNamed
      have hText : ((substitute old new).display ++ after).toList =
          "gsub(".toList ++ (old.toList ++ ',' :: (new.toList ++ ')' :: after.toList)) := by
        rw [String.toList_append, toList_display_substitute]
        simp
      have hName : "gsub(".toList <+: ((substitute old new).display ++ after).toList :=
        ⟨_, hText.symm⟩
      have hArguments : arguments? (old.toList ++ ',' :: (new.toList ++ ')' :: after.toList)) =
          some (old.toList, new.toList) :=
        arguments?_eq_some_iff.mpr ⟨hOld, after.toList, rfl, hAfter⟩
      rw [parse, isPrefixOf_eq_false hName (by decide) (by decide),
        isPrefixOf_eq_false hName (by decide) (by decide),
        isPrefixOf_eq_false hName (by decide) (by decide), hText, afterFront?_append]
      simp [hArguments]

/-- A specifier is read as the transformation that it names and as no other. -/
theorem parse_eq_ok_iff {specifier : String} {transformation : Transformation} :
    parse specifier = .ok transformation ↔ transformation.NamedBy specifier :=
  ⟨namedBy_of_parse, NamedBy.parse_eq⟩

/-- A transformation is read back from how it is shown unless a comma in the text to replace divides
it elsewhere. -/
theorem parse_display_iff {transformation : Transformation} :
    parse transformation.display = .ok transformation ↔
      ∀ old new, transformation = .substitute old new → ',' ∉ old.toList := by
  rw [parse_eq_ok_iff]
  cases transformation with
  | upperCase => simp [NamedBy, display]
  | lowerCase => simp [NamedBy, display]
  | substitute old new =>
      constructor
      · rintro ⟨hOld, -⟩ _ _ ⟨⟩
        exact hOld
      · intro hOld
        exact ⟨hOld old new rfl, "", by simp, by simp⟩

/-- Reading divides the arguments at the first comma. -/
theorem comma_not_mem_of_parse {specifier old new : String}
    (hParse : parse specifier = .ok (.substitute old new)) : ',' ∉ old.toList :=
  (parse_eq_ok_iff.mp hParse).1

/-- What was read once has no such comma. -/
theorem parse_display_of_parse {specifier : String} {transformation : Transformation}
    (hParse : parse specifier = .ok transformation) :
    parse transformation.display = .ok transformation :=
  parse_display_iff.mpr fun _ _ hSame => comma_not_mem_of_parse (hSame ▸ hParse)

/-- Colons part specifiers, and none comes in when one is shown again. -/
theorem colon_not_mem_display {specifier : String} {transformation : Transformation}
    (hParse : parse specifier = .ok transformation) (hColon : ':' ∉ specifier.toList) :
    ':' ∉ transformation.display.toList := by
  cases transformation with
  | upperCase => decide
  | lowerCase => decide
  | substitute old new =>
      obtain ⟨-, after, rfl, -⟩ := parse_eq_ok_iff.mp hParse
      rw [String.toList_append, List.mem_append, not_or] at hColon
      exact hColon.1

end Transformation

namespace Placeholder

/-- The body that a placeholder is written as. -/
def display (placeholder : Placeholder) : String :=
  ":".intercalate (placeholder.baseKey :: placeholder.transformations.map Transformation.display)

/-- A key and specifiers are taken apart again, if no colon is inside of them and the key alone is
not blank. -/
theorem split_intercalate {key : String} {specifiers : List String} (hKey : ':' ∉ key.toList)
    (hEmpty : key ≠ "") (hSpecifiers : ∀ specifier ∈ specifiers, ':' ∉ specifier.toList)
    (hBlank : specifiers = [] → Text.isBlankText key = false) :
    split (":".intercalate (key :: specifiers)) = .ok (key, specifiers) := by
  rw [split_eq_ok_iff, baseKeyOf_eq_ok_iff, specifiersOf]
  cases specifiers with
  | nil =>
      have hCut := Occurrence.cutAt?_eq_none_iff.mpr hKey
      have hBody : ":".intercalate [key] = key := by simp
      rw [hBody, hCut]
      exact ⟨⟨hBlank rfl, Occurrence.takeWhile_of_cutAt?_eq_none hCut, hEmpty⟩, rfl⟩
  | cons specifier more =>
      have hBody : (":".intercalate (key :: specifier :: more)).toList =
          key.toList ++ ':' :: Occurrence.joinFields ':' ((specifier :: more).map String.toList) := by
        rw [String.toList_intercalate, List.map_cons]
        show [':'].intercalate _ = _
        rw [← Occurrence.joinFields_eq_intercalate, Occurrence.joinFields_cons _ _ (by simp)]
      have hCut := Occurrence.cutAt?_eq_some_iff.mpr ⟨hBody, hKey⟩
      have hFields : ∀ part ∈ (specifier :: more).map String.toList, ':' ∉ part := by
        simpa using hSpecifiers
      have hSolid : Text.isBlankText (":".intercalate (key :: specifier :: more)) = false := by
        rw [Text.isBlankText, List.all_eq_false, hBody]
        exact ⟨':', by simp, by decide⟩
      rw [hCut, Occurrence.takeWhile_of_cutAt? hCut]
      refine ⟨⟨hSolid, rfl, hEmpty⟩, ?_⟩
      dsimp only
      rw [Occurrence.fields_joinFields (by simp) hFields]
      simp

theorem parse_eq_ok_iff {body : String} {token : Placeholder} :
    parse body = .ok token ↔ ∃ specifiers, split body = .ok (token.baseKey, specifiers) ∧
      specifiers.mapM Transformation.parse = .ok token.transformations := by
  obtain ⟨key, transformations⟩ := token
  rw [parse]
  cases split body with
  | error fault => simp
  | ok read =>
      obtain ⟨key', specifiers⟩ := read
      cases hRead : specifiers.mapM Transformation.parse with
      | error fault => simp +contextual [Except.map, hRead]
      | ok read => simp +contextual [Except.map, hRead]

/-- A body says the same as the one that its placeholder is written as. -/
theorem parse_display {body : String} {token : Placeholder} (hParse : parse body = .ok token) :
    parse token.display = .ok token := by
  obtain ⟨specifiers, hSplit, hRead⟩ := parse_eq_ok_iff.mp hParse
  obtain ⟨hKey, rfl⟩ := split_eq_ok_iff.mp hSplit
  have hSource : ∀ transformation ∈ token.transformations,
      ∃ specifier ∈ specifiersOf body, Transformation.parse specifier = .ok transformation :=
    fun transformation => exists_mem_of_mapM hRead
  refine parse_eq_ok_iff.mpr ⟨_, split_intercalate (baseKeyOf_eq_ok hKey).2
    (baseKeyOf_eq_ok_iff.mp hKey).2.2 ?_ ?_, mapM_map_eq_pure ?_⟩
  · intro display hDisplay
    obtain ⟨transformation, hMem, rfl⟩ := List.mem_map.mp hDisplay
    obtain ⟨specifier, hSpecifier, hHere⟩ := hSource transformation hMem
    exact Transformation.colon_not_mem_display hHere
      (colon_not_mem_of_mem_specifiersOf hSpecifier)
  · intro hNone
    rw [List.map_eq_nil_iff] at hNone
    rw [hNone, mapM_eq_ok_iff, List.forall₂_nil_right_iff] at hRead
    have hBody := intercalate_split hSplit
    rw [hRead, String.intercalate_singleton] at hBody
    exact hBody ▸ (baseKeyOf_eq_ok_iff.mp hKey).1
  · intro transformation hMem
    obtain ⟨specifier, -, hHere⟩ := hSource transformation hMem
    exact Transformation.parse_display_of_parse hHere

/-- The body that says the same as a given one in the fewest words. -/
def normalize (body : String) : Except Fault String := (parse body).map display

/-- A transformation is read back from its specifier unless a comma in the text to replace divides
the arguments too early, and no specifier is ever read as such a transformation. So a body may be
exchanged for the one its placeholder is written as: it is read as the same placeholder, and is
exchanged for nothing else. -/
theorem display_is_read_back :
    (∀ transformation : Transformation,
      Transformation.parse transformation.display = .ok transformation ↔
        ∀ old new, transformation = .substitute old new → ',' ∉ old.toList) ∧
    (∀ specifier transformation, Transformation.parse specifier = .ok transformation →
      ∀ old new, transformation = .substitute old new → ',' ∉ old.toList) ∧
    ∀ body token, parse body = .ok token →
      parse (":".intercalate (token.baseKey :: token.transformations.map Transformation.display)) =
        .ok token ∧
      normalize body = .ok token.display ∧ normalize token.display = .ok token.display := by
  refine ⟨fun transformation => Transformation.parse_display_iff, ?_, ?_⟩
  · rintro specifier _ hParse old new rfl
    exact Transformation.comma_not_mem_of_parse hParse
  · intro body token hParse
    have hAgain := parse_display hParse
    refine ⟨hAgain, ?_, ?_⟩
    · rw [normalize, hParse]
      rfl
    · rw [normalize, hAgain]
      rfl

/-- Parentheses and further commas are kept, a longer name is cut down, and what follows the last
parenthesis is lost. -/
theorem display_is_read_back_with_parentheses :
    let body := "n:gsub(a)(,b,(c) d)x:toDownCase!"
    let token : Placeholder := ⟨"n", [.substitute "a)(" "b,(c) d", .lowerCase]⟩
    parse body = .ok token ∧ token.display = "n:gsub(a)(,b,(c) d):toLowerCase" ∧
    parse "n:gsub(a)(,b,(c) d):toLowerCase" = .ok token ∧
    normalize body = .ok "n:gsub(a)(,b,(c) d):toLowerCase" ∧
    Transformation.parse (Transformation.substitute "a,b" "c").display ≠
      .ok (.substitute "a,b" "c") := by
  intro body token
  have hParse : parse body = .ok token := by decide +kernel
  have hDisplay : token.display = "n:gsub(a)(,b,(c) d):toLowerCase" := by decide +kernel
  obtain ⟨hRead, -, hBodies⟩ := display_is_read_back
  obtain ⟨hAgain, hNormal, -⟩ := hBodies body token hParse
  refine ⟨hParse, hDisplay, hDisplay ▸ hAgain, hDisplay ▸ hNormal, fun hComma => ?_⟩
  exact (hRead _).mp hComma "a,b" "c" rfl (by decide)

end Placeholder

end Stencil
