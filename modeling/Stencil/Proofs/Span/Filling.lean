import Mathlib.Data.List.Infix
import Stencil.Proofs.Span.Agreement

/-! A content in which some spans have given way to values. A value that is not empty and holds no
byte of the opening stands in the way of every opening that would run into it. What precedes it
on its line has been searched with a span behind it, so no opening is left there either, and a
search finds the spans that were left in place, and no others. -/

namespace Stencil.Span

section Here

variable {opening closing content body after : Bytes}

theorem eq_append_of_here? (hHere : here? opening closing content = some (body, after)) :
    content = opening ++ body ++ closing ++ after := by
  obtain ⟨rest, hRest, hClose⟩ := Option.bind_eq_some_iff.mp hHere
  rw [closeOnLine?_eq_filter] at hClose
  have hCut := (Option.filter_eq_some_iff.mp hClose).1
  rw [Occurrence.afterFront?_eq_some_iff.mp hRest, Occurrence.eq_append_of_cut? hCut]
  simp only [List.append_assoc]

/-- A span begins where an opening stands and some closing, the first or not, is on its line. -/
theorem isSome_here?_iff :
    (here? opening closing content).isSome ↔
      ∃ body after, newline ∉ body ∧ content = opening ++ body ++ closing ++ after := by
  constructor
  · intro hSome
    obtain ⟨⟨body, after⟩, hHere⟩ := Option.isSome_iff_exists.mp hSome
    exact ⟨body, after, newline_not_mem_of_here? hHere, eq_append_of_here? hHere⟩
  · rintro ⟨body, after, hLine, rfl⟩
    obtain ⟨first, rest, hCut, hFirst⟩ := Occurrence.exists_cut?_append body closing after
    have hHere : here? opening closing (opening ++ body ++ closing ++ after) =
        closeOnLine? closing (body ++ closing ++ after) := by
      simp only [List.append_assoc, here?_append]
    have hShort : newline ∉ first := fun hMem => hLine (hFirst.subset hMem)
    rw [hHere, closeOnLine?_eq_filter, hCut]
    simp [Option.filter, hShort]

/-- What follows a span has no say in where it ends. -/
theorem here?_append_congr (after' : Bytes)
    (hHere : here? opening closing content = some (body, after)) :
    here? opening closing (opening ++ body ++ closing ++ after') = some (body, after') := by
  obtain ⟨rest, hRest, hClose⟩ := Option.bind_eq_some_iff.mp hHere
  rw [closeOnLine?_eq_filter] at hClose
  obtain ⟨hCut, hLine⟩ := Option.filter_eq_some_iff.mp hClose
  have hFront : opening ++ body ++ closing ++ after' = opening ++ (body ++ closing ++ after') := by
    simp only [List.append_assoc]
  rw [hFront, here?_append, closeOnLine?_eq_filter, Occurrence.cut?_append_congr after' hCut]
  exact Option.filter_eq_some_iff.mpr ⟨rfl, hLine⟩

/-- Induction along a search: a span at the front is taken off as a whole, and anything else byte
by byte. -/
@[elab_as_elim]
theorem search_induction {opening : Bytes} (closing : Bytes) {motive : Bytes → Prop}
    (hOpening : opening ≠ []) (nil : motive [])
    (byte : ∀ b rest, here? opening closing (b :: rest) = none → motive rest → motive (b :: rest))
    (span : ∀ content body after, here? opening closing content = some (body, after) →
      motive after → motive content)
    (content : Bytes) : motive content := by
  induction hLength : content.length using Nat.strong_induction_on generalizing content with
  | h length ih =>
      cases hHere : here? opening closing content with
      | none =>
          cases content with
          | nil => exact nil
          | cons b rest => exact byte b rest hHere (ih rest.length (by simp [← hLength]) rest rfl)
      | some found =>
          obtain ⟨body, after⟩ := found
          have hShorter : after.length < length := by
            have hPositive := List.length_pos_iff.mpr hOpening
            rw [← hLength, eq_append_of_here? hHere]
            simp only [List.length_append]
            omega
          exact span content body after hHere (ih after.length hShorter after rfl)

end Here

/-- One content comes from another by giving values to some of the bodies that a search finds. -/
inductive Filled (opening closing : Bytes) (value? : Bytes → Option Bytes) : Bytes → Bytes → Prop
  | nil : Filled opening closing value? [] []
  | byte {b : UInt8} {rest filled : Bytes} (hHere : here? opening closing (b :: rest) = none)
      (hRest : Filled opening closing value? rest filled) :
      Filled opening closing value? (b :: rest) (b :: filled)
  | left {content body after filled : Bytes}
      (hHere : here? opening closing content = some (body, after)) (hBody : value? body = none)
      (hRest : Filled opening closing value? after filled) :
      Filled opening closing value? content (opening ++ body ++ closing ++ filled)
  | given {content body after filled value : Bytes}
      (hHere : here? opening closing content = some (body, after))
      (hBody : value? body = some value)
      (hRest : Filled opening closing value? after filled) :
      Filled opening closing value? content (value ++ filled)

/-- The spans that are given no value, each as far from its place as the values in front of it
are longer than the spans they replace. -/
def moved (value? : Bytes → Option Bytes) (shift : Int) : List Span → List Span
  | [] => []
  | span :: spans =>
      match value? span.body with
      | none =>
          ⟨(span.start + shift).toNat, span.body, (span.stop + shift).toNat⟩ ::
            moved value? shift spans
      | some value => moved value? (shift + value.length - (span.stop - span.start)) spans

/-- The spans that are left keep their order and their bodies. -/
theorem map_body_moved (value? : Bytes → Option Bytes) (shift : Int) (spans : List Span) :
    (moved value? shift spans).map Span.body =
      (spans.filter fun span => (value? span.body).isNone).map Span.body := by
  induction spans generalizing shift with
  | nil => rfl
  | cons span spans ih =>
      rw [moved]
      cases hBody : value? span.body with
      | none => simp [hBody, ih]
      | some value => simp [hBody, ih]

/-- A value that an opening cannot run into. -/
structure Apart (opening value : Bytes) : Prop where
  ne_nil : value ≠ []
  not_mem : ∀ b ∈ value, b ∉ opening

theorem apart_iff {opening value : Bytes} :
    Apart opening value ↔ value ≠ [] ∧ ∀ b ∈ value, b ∉ opening :=
  ⟨fun hApart => ⟨hApart.ne_nil, hApart.not_mem⟩, fun hApart => ⟨hApart.1, hApart.2⟩⟩

instance (opening value : Bytes) : Decidable (Apart opening value) :=
  @decidable_of_iff' _ _ apart_iff (@instDecidableAnd _ _ _ (List.decidableBAll _ value))

namespace Filled

variable {opening closing content filled : Bytes} {value? : Bytes → Option Bytes}

/-- Up to the first value, both contents are the same. -/
theorem eq_or_exists (hOpening : opening ≠ []) (offset : Nat)
    (hFilled : Filled opening closing value? content filled) :
    filled = content ∨
      ∃ front after rest value, ∃ span ∈ searchFrom opening closing offset content,
        value? span.body = some value ∧
          content = front ++ (opening ++ span.body ++ closing ++ after) ∧
          filled = front ++ (value ++ rest) := by
  induction hFilled generalizing offset with
  | nil => exact .inl rfl
  | @byte b rest filled hHere hRest ih =>
      rw [searchFrom_of_here?_eq_none offset hHere]
      rcases ih (offset + 1) with rfl | ⟨front, after, rest, value, span, hSpan, hValue, rfl, rfl⟩
      · exact .inl rfl
      · exact .inr ⟨b :: front, after, rest, value, span, hSpan, hValue, rfl, rfl⟩
  | @left content body after filled hHere hBody hRest ih =>
      rw [searchFrom_of_here? hOpening offset hHere, eq_append_of_here? hHere]
      rcases ih _ with rfl | ⟨front, after, rest, value, span, hSpan, hValue, rfl, rfl⟩
      · exact .inl rfl
      · refine .inr ⟨opening ++ body ++ closing ++ front, after, rest, value, span,
          List.mem_cons_of_mem _ hSpan, hValue, ?_, ?_⟩
        · simp only [List.append_assoc]
        · simp only [List.append_assoc]
  | @given content body after filled value hHere hBody hRest ih =>
      rw [searchFrom_of_here? hOpening offset hHere]
      exact .inr ⟨[], after, filled, value, _, List.mem_cons_self, hBody,
        eq_append_of_here? hHere, rfl⟩

/-- No span begins where none began before. An opening that stands in front of a value on its line
had the closing of the replaced span behind it. -/
theorem here?_eq_none (hOpening : opening ≠ []) (hOpeningLine : newline ∉ opening)
    (hClosingLine : newline ∉ closing) (offset : Nat)
    (hValues : ∀ span ∈ searchFrom opening closing offset content, ∀ value,
      value? span.body = some value → Apart opening value)
    (hFilled : Filled opening closing value? content filled)
    (hHere : here? opening closing content = none) : here? opening closing filled = none := by
  rcases hFilled.eq_or_exists hOpening offset with
    rfl | ⟨front, after, rest, value, span, hSpan, hValue, hContent, rfl⟩
  · exact hHere
  rw [← Option.not_isSome_iff_eq_none, isSome_here?_iff] at hHere ⊢
  rintro ⟨body, after', hBody, hText⟩
  obtain ⟨hNe, hApart⟩ := hValues span hSpan value hValue
  -- the opening ends in front of the value
  obtain ⟨gap, rfl, hGap⟩ : ∃ gap, front = opening ++ gap ∧
      gap ++ (value ++ rest) = body ++ closing ++ after' := by
    rw [List.append_assoc, List.append_assoc, List.append_eq_append_iff] at hText
    rcases hText with ⟨more, hMore, hRest⟩ | ⟨gap, hFront, hRest⟩
    · cases more with
      | nil => exact ⟨[], by simpa using hMore.symm, by simpa using hRest⟩
      | cons b more =>
          obtain ⟨v, value, rfl⟩ := List.exists_cons_of_ne_nil hNe
          obtain rfl : v = b := (List.cons.inj hRest).1
          exact absurd (hMore ▸ List.mem_append_right front List.mem_cons_self)
            (hApart v List.mem_cons_self)
    · exact ⟨gap, hFront, by rw [← hRest, List.append_assoc]⟩
  by_cases hLine : newline ∈ gap
  · -- the closing ends on the line of the opening, and so in front of the value
    have hShort : body ++ closing <+: gap := by
      rcases List.prefix_or_prefix_of_prefix (⟨after', hGap.symm⟩ : body ++ closing <+: _)
        (List.prefix_append gap (value ++ rest)) with hShort | hLong
      · exact hShort
      · have hMem := hLong.subset hLine
        exact absurd hMem (by simp [hBody, hClosingLine])
    obtain ⟨gap', rfl⟩ := hShort
    refine hHere ⟨body, gap' ++ (opening ++ span.body ++ closing ++ after), hBody, ?_⟩
    simp only [hContent, List.append_assoc]
  · refine hHere ⟨gap ++ opening ++ span.body, after, ?_, ?_⟩
    · simp [hLine, hOpeningLine, newline_not_mem_of_mem_searchFrom hSpan]
    · simp only [hContent, List.append_assoc]

end Filled

theorem here?_nil {opening : Bytes} (closing : Bytes) (hOpening : opening ≠ []) :
    here? opening closing [] = none := by
  obtain ⟨a, opening, rfl⟩ := List.exists_cons_of_ne_nil hOpening
  rfl

/-- No span begins with a byte that no opening begins with. -/
theorem here?_cons_eq_none {opening : Bytes} (closing : Bytes) (hOpening : opening ≠ [])
    {b : UInt8} (hByte : b ∉ opening) (rest : Bytes) :
    here? opening closing (b :: rest) = none := by
  obtain ⟨a, opening, rfl⟩ := List.exists_cons_of_ne_nil hOpening
  have hNe : a ≠ b := fun hSame => hByte (hSame ▸ List.mem_cons_self)
  simp [here?, Occurrence.afterFront?, hNe]

/-- A search passes over a value that the opening cannot run into. -/
theorem searchFrom_append_of_apart {opening closing value : Bytes} (rest : Bytes) (offset : Nat)
    (hOpening : opening ≠ []) (hApart : ∀ b ∈ value, b ∉ opening) :
    searchFrom opening closing offset (value ++ rest) =
      searchFrom opening closing (offset + value.length) rest := by
  induction value generalizing offset with
  | nil => rfl
  | cons b value ih =>
      have hHere := here?_cons_eq_none closing hOpening (hApart b List.mem_cons_self)
      rw [List.cons_append, searchFrom_of_here?_eq_none offset (hHere (value ++ rest)),
        ih (offset + 1) fun b hMem => hApart b (List.mem_cons_of_mem _ hMem), List.length_cons]
      congr 1
      omega

theorem Filled.append_of_apart {opening closing front content filled : Bytes}
    {value? : Bytes → Option Bytes} (hOpening : opening ≠ []) (hApart : ∀ b ∈ front, b ∉ opening)
    (hFilled : Filled opening closing value? content filled) :
    Filled opening closing value? (front ++ content) (front ++ filled) := by
  induction front with
  | nil => exact hFilled
  | cons b front ih =>
      exact .byte (here?_cons_eq_none closing hOpening (hApart b List.mem_cons_self) _)
        (ih fun b hMem => hApart b (List.mem_cons_of_mem _ hMem))

/-- What a content becomes is settled by the values. -/
theorem Filled.unique {opening closing content filled filled' : Bytes}
    {value? : Bytes → Option Bytes} (hOpening : opening ≠ [])
    (hFilled : Filled opening closing value? content filled)
    (hFilled' : Filled opening closing value? content filled') : filled = filled' := by
  induction hFilled generalizing filled' with
  | nil =>
      have hNone := here?_nil closing hOpening
      cases hFilled' with
      | nil => rfl
      | left hHere => simp [hNone] at hHere
      | given hHere => simp [hNone] at hHere
  | byte hHere hRest ih =>
      cases hFilled' with
      | byte _ hRest' => rw [ih hRest']
      | left hHere' => simp [hHere] at hHere'
      | given hHere' => simp [hHere] at hHere'
  | left hHere hBody hRest ih =>
      cases hFilled' with
      | nil => simp [here?_nil closing hOpening] at hHere
      | byte hHere' => simp [hHere'] at hHere
      | left hHere' _ hRest' =>
          obtain ⟨rfl, rfl⟩ := Prod.mk.inj (Option.some.inj (hHere.symm.trans hHere'))
          rw [ih hRest']
      | given hHere' hBody' =>
          obtain ⟨rfl, rfl⟩ := Prod.mk.inj (Option.some.inj (hHere.symm.trans hHere'))
          simp [hBody] at hBody'
  | given hHere hBody hRest ih =>
      cases hFilled' with
      | nil => simp [here?_nil closing hOpening] at hHere
      | byte hHere' => simp [hHere'] at hHere
      | left hHere' hBody' =>
          obtain ⟨rfl, rfl⟩ := Prod.mk.inj (Option.some.inj (hHere.symm.trans hHere'))
          simp [hBody] at hBody'
      | given hHere' hBody' hRest' =>
          obtain ⟨rfl, rfl⟩ := Prod.mk.inj (Option.some.inj (hHere.symm.trans hHere'))
          obtain rfl := Option.some.inj (hBody.symm.trans hBody')
          rw [ih hRest']

/-- A search finds the spans that were left, and no others. -/
theorem Filled.searchFrom_eq {opening closing content filled : Bytes}
    {value? : Bytes → Option Bytes} (hOpening : opening ≠ []) (hOpeningLine : newline ∉ opening)
    (hClosingLine : newline ∉ closing) (offset offset' : Nat)
    (hFilled : Filled opening closing value? content filled)
    (hValues : ∀ span ∈ searchFrom opening closing offset content, ∀ value,
      value? span.body = some value → Apart opening value) :
    searchFrom opening closing offset' filled =
      moved value? (offset' - offset) (searchFrom opening closing offset content) := by
  induction hFilled generalizing offset offset' with
  | nil =>
      have hNone : Occurrence.cut? opening [] = none := by simp [Occurrence.cut?, hOpening]
      rw [searchFrom_eq_nil_of_no_opening offset hNone,
        searchFrom_eq_nil_of_no_opening offset' hNone]
      rfl
  | @byte b rest filled hHere hRest ih =>
      have hNone := (Filled.byte hHere hRest).here?_eq_none hOpening hOpeningLine hClosingLine
        offset hValues hHere
      rw [searchFrom_of_here?_eq_none offset hHere] at hValues ⊢
      rw [searchFrom_of_here?_eq_none offset' hNone, ih (offset + 1) (offset' + 1) hValues]
      congr 1
      omega
  | @left content body after filled hHere hBody hRest ih =>
      rw [searchFrom_of_here? hOpening offset hHere] at hValues ⊢
      rw [searchFrom_of_here? hOpening offset' (here?_append_congr filled hHere), moved, hBody,
        ih _ _ fun span hMem => hValues span (List.mem_cons_of_mem _ hMem)]
      dsimp only
      have hStart : ((offset : Int) + (offset' - offset)).toNat = offset' := by omega
      have hStop : ((offset + opening.length + body.length + closing.length : Nat) +
          ((offset' : Int) - offset)).toNat =
            offset' + opening.length + body.length + closing.length := by omega
      rw [hStart, hStop]
      congr 2
      omega
  | @given content body after filled value hHere hBody hRest ih =>
      rw [searchFrom_of_here? hOpening offset hHere] at hValues ⊢
      have hApart := hValues _ List.mem_cons_self value hBody
      rw [searchFrom_append_of_apart filled offset' hOpening hApart.not_mem, moved, hBody,
        ih _ _ fun span hMem => hValues span (List.mem_cons_of_mem _ hMem)]
      dsimp only
      congr 1
      omega

end Stencil.Span
