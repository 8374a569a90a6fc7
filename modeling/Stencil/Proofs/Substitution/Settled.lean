import Stencil.Proofs.Span.Filling
import Stencil.Proofs.Substitution.Tokenized
import Stencil.Proofs.Text.Utf8

/-! What a second substitution of the same values does. As long as the values that are put in place
keep apart from the opening, it finds the spans that the first one left and nothing else, so it
has nothing to replace and meets the same faults. -/

namespace Stencil.Substitution.Tokenized

open Text

/-- Spans that are replaced from the last to the first leave what comes before them alone. -/
theorem filled_foldr {opening : Bytes} (closing : Bytes) (hOpening : opening ≠ [])
    (lookup : Table String String) (front content : Bytes) :
    ∃ filled, Span.Filled opening closing (replacement? lookup) content filled ∧
      ((Span.searchFrom opening closing front.length content).foldr (substituteSpan lookup)
        (.unchanged (front ++ content))).content = front ++ filled := by
  induction content using Span.search_induction closing hOpening generalizing front with
  | nil =>
      have hNone : Occurrence.cut? opening [] = none := by simp [Occurrence.cut?, hOpening]
      rw [Span.searchFrom_eq_nil_of_no_opening _ hNone]
      exact ⟨[], .nil, rfl⟩
  | byte b rest hHere ih =>
      obtain ⟨filled, hFilled, hContent⟩ := ih (front ++ [b])
      rw [List.length_append, List.length_singleton, List.append_assoc, List.append_assoc]
        at hContent
      rw [Span.searchFrom_of_here?_eq_none _ hHere]
      exact ⟨b :: filled, .byte hHere hFilled, hContent⟩
  | span content body after hHere ih =>
      have hText := Span.eq_append_of_here? hHere
      have hStop : (front ++ (opening ++ body ++ closing)).length =
          front.length + opening.length + body.length + closing.length := by
        simp only [List.length_append]
        omega
      obtain ⟨filled, hFilled, hContent⟩ := ih (front ++ (opening ++ body ++ closing))
      rw [List.append_assoc, ← hText, hStop] at hContent
      rw [Span.searchFrom_of_here? hOpening _ hHere, List.foldr_cons, content_substituteSpan,
        hContent]
      cases hBody : replacement? lookup body with
      | none => exact ⟨_, .left hHere hBody hFilled, by simp only [List.append_assoc]⟩
      | some value =>
          refine ⟨value ++ filled, .given hHere hBody hFilled, ?_⟩
          dsimp only
          rw [← hStop, List.drop_left, List.append_assoc front, List.take_left,
            List.append_assoc front]

theorem filled_substitute {opening : String} (hOpening : opening ≠ "") (closing : String)
    (values : Values) (content : Bytes) :
    Span.Filled (Utf8.encode opening) (Utf8.encode closing) (replacement? values.effective) content
      (substitute opening closing values content).content := by
  obtain ⟨filled, hFilled, hContent⟩ := filled_foldr (Utf8.encode closing)
    (Utf8.encode_ne_nil hOpening) values.effective [] content
  have hSame : (substitute opening closing values content).content = filled := hContent
  rw [hSame]
  exact hFilled

/-- The faults of spans with the same bodies are the same. -/
theorem filterMap_fault?_congr {spans spans' : List Span}
    (hBodies : spans.map Span.body = spans'.map Span.body) :
    spans.filterMap fault? = spans'.filterMap fault? := by
  have hFault : fault? = (fun body => fault? ⟨0, body, 0⟩) ∘ Span.body := rfl
  rw [hFault, ← List.filterMap_map, ← List.filterMap_map, hBodies]

/-- A span that is replaced is not at fault. -/
theorem filterMap_fault?_filter (lookup : Table String String) (spans : List Span) :
    (spans.filter fun span => !isReplaced lookup span).filterMap fault? =
      spans.filterMap fault? := by
  rw [List.filterMap_filter]
  apply List.filterMap_congr
  intro span _
  cases hReplaced : isReplaced lookup span with
  | false => rfl
  | true =>
      obtain ⟨key, hKey, -⟩ := (Option.any_eq_true _ _).mp hReplaced
      exact (fault?_eq_none_iff.mpr ⟨key, hKey⟩).symm

/-- The spans of a content in which values were put in place are those that were left, each moved
by what came in front of it. So there is nothing left to replace, and the same values once more
change nothing and meet the same faults. Values may well hold bytes of the closing. -/
theorem substitute_again_finds_what_was_left (opening closing : String) (values : Values)
    (content : Bytes) (hOpening : opening ≠ "")
    (hOpeningLine : Span.newline ∉ Utf8.encode opening)
    (hClosingLine : Span.newline ∉ Utf8.encode closing)
    (hValues : ∀ span ∈ Span.search (Utf8.encode opening) (Utf8.encode closing) content,
      ∀ value ∈ replacement? values.effective span.body, Span.Apart (Utf8.encode opening) value) :
    let spans := Span.search (Utf8.encode opening) (Utf8.encode closing) content
    let result := substitute opening closing values content
    let left := Span.search (Utf8.encode opening) (Utf8.encode closing) result.content
    left = Span.moved (replacement? values.effective) 0 spans ∧
    left.map Span.body =
      (spans.filter fun span => !isReplaced values.effective span).map Span.body ∧
    (∀ span ∈ left, isReplaced values.effective span = false) ∧
    substitute opening closing values result.content = ⟨result.content, 0, result.faults⟩ := by
  intro spans result left
  have hMoved : left = Span.moved (replacement? values.effective) 0 spans :=
    (filled_substitute hOpening closing values content).searchFrom_eq
      (Utf8.encode_ne_nil hOpening) hOpeningLine hClosingLine 0 0 hValues
  have hBodies : left.map Span.body =
      (spans.filter fun span => !isReplaced values.effective span).map Span.body := by
    rw [hMoved, Span.map_body_moved]
    congr 2
    funext span
    rw [isReplaced_eq, Option.not_isSome]
  have hLeft : ∀ span ∈ left, isReplaced values.effective span = false := by
    intro span hSpan
    have hBody : span.body ∈ left.map Span.body := List.mem_map_of_mem hSpan
    rw [hBodies] at hBody
    obtain ⟨other, hOther, hSame⟩ := List.mem_map.mp hBody
    have hNot := (List.mem_filter.mp hOther).2
    rw [isReplaced_eq, hSame, ← isReplaced_eq] at hNot
    simpa using hNot
  have hCount : (substitute opening closing values result.content).count = 0 := by
    rw [count_substitute]
    exact List.countP_eq_zero.mpr fun span hSpan => by simp [hLeft span hSpan]
  have hFaults : (substitute opening closing values result.content).faults = result.faults := by
    have hSame := filterMap_fault?_congr hBodies
    rw [filterMap_fault?_filter] at hSame
    rw [faults_substitute, faults_substitute, List.filterMap_reverse, List.filterMap_reverse]
    exact congrArg List.reverse hSame
  refine ⟨hMoved, hBodies, hLeft, ?_⟩
  rw [Substituted.mk.injEq]
  exact ⟨content_of_count_eq_zero hCount, hCount, hFaults⟩

/-- The span that is left holds an opening of its own, one that failed precedes it on an earlier
line, and the second value holds a closing. -/
theorem substitute_again_finds_unknown_key :
    let content := Utf8.encode "[[ \n[[A:toUpperCase]][[ [[C]] [[B]][[:"
    let values : Values := { assignments := [⟨"A", "x"⟩, ⟨"B", "]]]"⟩] }
    let result := substitute "[[" "]]" values content
    result.content = Utf8.encode "[[ \nX[[ [[C]] ]]][[:" ∧
    (∀ span ∈ Span.search (Utf8.encode "[[") (Utf8.encode "]]") content,
      ∀ value ∈ replacement? values.effective span.body, Span.Apart (Utf8.encode "[[") value) ∧
    Span.search (Utf8.encode "[[") (Utf8.encode "]]") result.content =
      [⟨5, Utf8.encode " [[C", 13⟩] ∧
    substitute "[[" "]]" values result.content = ⟨result.content, 0, result.faults⟩ := by
  intro content values result
  have hValues : ∀ span ∈ Span.search (Utf8.encode "[[") (Utf8.encode "]]") content,
      ∀ value ∈ replacement? values.effective span.body, Span.Apart (Utf8.encode "[[") value := by
    decide +kernel
  obtain ⟨hMoved, -, -, hAgain⟩ := substitute_again_finds_what_was_left "[[" "]]" values content
    (by decide) (by decide) (by decide) hValues
  refine ⟨by decide +kernel, hValues, ?_, hAgain⟩
  rw [hMoved]
  decide +kernel

end Stencil.Substitution.Tokenized
