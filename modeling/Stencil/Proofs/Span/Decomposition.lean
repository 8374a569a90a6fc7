import Stencil.Proofs.Span.Leftmost

/-! What a scan finds, told by the pieces that it takes a content apart into: a gap, an opening, a
body, a closing, and so on, and a tail. No opening begins in a gap, no closing begins in a body, and
in the tail no opening has a closing behind it. A content comes apart in just one such way. -/

namespace Stencil.Span

open Occurrence (Passes)

variable {opening closing : Bytes}

/-- A content whose first byte has the given offset comes apart into gaps, these spans and a
tail. -/
inductive Decomposes (opening closing : Bytes) : Nat → Bytes → List Span → Prop
  | tail {offset : Nat} {content : Bytes}
      (hNone : ∀ gap rest, content = gap ++ opening ++ rest → ¬ closing <:+: rest) :
      Decomposes opening closing offset content []
  | span {offset : Nat} {gap body after : Bytes} {spans : List Span}
      (hGap : Passes opening gap (opening ++ (body ++ closing ++ after)))
      (hBody : Passes closing body (closing ++ after))
      (hRest : Decomposes opening closing
        (offset + gap.length + opening.length + body.length + closing.length) after spans) :
      Decomposes opening closing offset (gap ++ opening ++ (body ++ closing ++ after))
        (⟨offset + gap.length, body,
          offset + gap.length + opening.length + body.length + closing.length⟩ :: spans)

/-- A closing behind some opening is a closing behind the first one. -/
theorem not_infix_of_cut?_eq_none {content gap rest : Bytes}
    (hOpen : Occurrence.cut? opening content = some (gap, rest))
    (hClose : Occurrence.cut? closing rest = none) {gap' rest' : Bytes}
    (hContent : content = gap' ++ opening ++ rest') : ¬ closing <:+: rest' := by
  obtain ⟨first, after, hFirst, hFront⟩ := Occurrence.exists_cut?_append gap' opening rest'
  rw [← hContent, hOpen] at hFirst
  obtain ⟨rfl, rfl⟩ := Prod.mk.inj (Option.some.inj hFirst)
  have hText := Occurrence.eq_append_of_cut? hOpen
  have hShort : rest'.length ≤ rest.length := by
    have hLength := congrArg List.length (hContent.symm.trans hText)
    have hGap := hFront.length_le
    simp only [List.length_append] at hLength
    omega
  have hTail : rest' <:+ rest :=
    List.suffix_of_suffix_length_le ⟨gap' ++ opening, hContent.symm⟩
      ⟨gap ++ opening, hText.symm⟩ hShort
  exact Occurrence.cut?_eq_none_iff.mp (Occurrence.cut?_eq_none_of_suffix hTail hClose)

theorem decomposes_scanFrom (hOpening : opening ≠ []) (offset : Nat) (content : Bytes) :
    Decomposes opening closing offset content (scanFrom opening closing offset content) := by
  fun_induction scanFrom opening closing offset content with
  | case1 offset content hOpen =>
      refine .tail fun gap rest hContent => ?_
      exact absurd ⟨gap, rest, hContent.symm⟩ (Occurrence.cut?_eq_none_iff.mp hOpen)
  | case2 offset content gap rest hOpen hClose =>
      exact .tail fun gap' rest' hContent => not_infix_of_cut?_eq_none hOpen hClose hContent
  | case3 offset content gap rest hOpen body after hClose start stop shorter ih =>
      obtain ⟨rfl, hBody⟩ := Occurrence.cut?_eq_some_iff.mp hClose
      obtain ⟨rfl, hGap⟩ := Occurrence.cut?_eq_some_iff.mp hOpen
      exact .span hGap hBody ih
  | case4 offset content gap rest hOpen body after hClose longer =>
      -- the opening is not empty, so something was taken off
      have hPositive := List.length_pos_iff.mpr hOpening
      rw [Occurrence.length_of_cut? hOpen, Occurrence.length_of_cut? hClose] at longer
      omega

theorem Decomposes.eq_scanFrom (hOpening : opening ≠ []) {offset : Nat} {content : Bytes}
    {spans : List Span} (hSpans : Decomposes opening closing offset content spans) :
    spans = scanFrom opening closing offset content := by
  induction hSpans with
  | @tail offset content hNone =>
      rw [scanFrom.eq_def]
      cases hOpen : Occurrence.cut? opening content with
      | none => rfl
      | some found =>
          obtain ⟨gap, rest⟩ := found
          have hClose : Occurrence.cut? closing rest = none :=
            Occurrence.cut?_eq_none_iff.mpr (hNone gap rest (Occurrence.eq_append_of_cut? hOpen))
          simp only [hClose]
  | span hGap hBody hRest ih =>
      have hOpen := Occurrence.cut?_eq_some_iff.mpr ⟨rfl, hGap⟩
      have hClose := Occurrence.cut?_eq_some_iff.mpr ⟨rfl, hBody⟩
      rw [scanFrom_of_cut? hOpening _ hOpen hClose, ← ih]

/-- A content comes apart in just one way, and a scan is what finds it. -/
theorem decomposes_iff (hOpening : opening ≠ []) (hClosing : closing ≠ []) {content : Bytes}
    {spans : List Span} :
    Decomposes opening closing 0 content spans ↔ spans = scan opening closing content := by
  have hScan : scan opening closing content = scanFrom opening closing 0 content := by
    simp [scan, hOpening, hClosing]
  rw [hScan]
  constructor
  · exact Decomposes.eq_scanFrom hOpening
  · rintro rfl
    exact decomposes_scanFrom hOpening 0 content

/-- A span lies within a content, and its body is what stands there between its delimiters. -/
structure Within (opening closing content : Bytes) (span : Span) : Prop where
  stop_eq : span.start + opening.length + span.body.length + closing.length = span.stop
  stop_le : span.stop ≤ content.length
  body_eq : between content (span.start + opening.length)
    (span.start + opening.length + span.body.length) = span.body

theorem Decomposes.within {front content : Bytes} {spans : List Span}
    (hSpans : Decomposes opening closing front.length content spans) :
    ∀ span ∈ spans, Within opening closing (front ++ content) span := by
  generalize hOffset : front.length = offset at hSpans
  induction hSpans generalizing front with
  | tail => exact fun _ hMem => absurd hMem List.not_mem_nil
  | @span offset gap body after spans hGap hBody hRest ih =>
      subst hOffset
      intro span hMem
      rcases List.mem_cons.mp hMem with rfl | hLater
      · refine ⟨rfl, ?_, ?_⟩
        · simp only [List.length_append]
          omega
        · have hFront : (front ++ (gap ++ opening ++ (body ++ closing ++ after))).drop
              (front.length + gap.length + opening.length) = body ++ closing ++ after := by
            rw [← List.append_assoc, List.drop_left' (by simp only [List.length_append]; omega)]
          rw [between, hFront, Nat.add_sub_cancel_left, List.append_assoc, List.take_left]
      · have hNext := @ih (front ++ (gap ++ opening ++ body ++ closing)) (by
          simp only [List.length_append]
          omega)
        simp only [List.append_assoc] at hNext ⊢
        exact hNext span hLater

/-- No slice that a scan takes reaches beyond the content. -/
theorem within_of_mem_scan (hOpening : opening ≠ []) (hClosing : closing ≠ []) {content : Bytes}
    {span : Span} (hSpan : span ∈ scan opening closing content) :
    Within opening closing content span := by
  have hSpans : Decomposes opening closing ([] : Bytes).length content
      (scan opening closing content) := (decomposes_iff hOpening hClosing).mpr rfl
  exact hSpans.within span hSpan

end Stencil.Span
