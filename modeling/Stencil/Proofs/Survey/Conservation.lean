import Stencil.Proofs.Census
import Stencil.Proofs.Span.Agreement
import Stencil.Proofs.Substitution.Tokenized
import Stencil.Proofs.Text.Utf8

/-! What is counted in a content against what is replaced in it. The count goes by a scan and
the replacement by a search, so the two agree on the spans exactly when no scanned body runs
over the end of a line, and then a content that is replaced without faults loses as many
placeholders as were counted. -/

namespace Stencil

theorem toOption_eq_some_iff {ε α : Type} {result : Except ε α} {a : α} :
    result.toOption = some a ↔ result = .ok a := by
  cases result <;> simp [Except.toOption]

namespace Survey

open Substitution Text

/-- The census of a single content. -/
def census (opening closing : String) (content : Bytes) : Census :=
  Census.empty.recordAll (usable (keys opening closing content))

theorem usable_keys (opening closing : String) (content : Bytes) :
    usable (keys opening closing content) =
      (Span.scan (Utf8.encode opening) (Utf8.encode closing) content).filterMap fun span =>
        (keyOfBody span.body).toOption := by
  rw [usable, keys, List.filterMap_map]
  rfl

/-- A key is counted exactly when some scanned body names it. -/
theorem mem_keys_census_iff {opening closing : String} {content : Bytes} {key : String} :
    key ∈ (census opening closing content).keys ↔
      ∃ span ∈ Span.scan (Utf8.encode opening) (Utf8.encode closing) content,
        keyOfBody span.body = .ok key := by
  rw [census, Census.mem_keys_recordAll, usable_keys]
  simp [toOption_eq_some_iff, Census.empty, Census.keys]

theorem total_census (opening closing : String) (content : Bytes) :
    (census opening closing content).total =
      (Span.scan (Utf8.encode opening) (Utf8.encode closing) content).countP fun span =>
        (keyOfBody span.body).toOption.isSome := by
  rw [census, Census.total_recordAll, usable_keys, List.length_filterMap_eq_countP]
  exact Nat.zero_add _

/-- If a search finds the scanned spans, no body is at fault, and every counted key has a
value, then every span is counted and every span is replaced. -/
theorem count_eq_total {opening closing : String} {content : Bytes} {values : Values}
    (hSpans : Span.search (Utf8.encode opening) (Utf8.encode closing) content =
      Span.scan (Utf8.encode opening) (Utf8.encode closing) content)
    (hValues : ∀ key ∈ (census opening closing content).keys,
      (values.effective.get? key).isSome)
    (hFaults : (Tokenized.substitute opening closing values content).faults = []) :
    (Tokenized.substitute opening closing values content).count =
      (census opening closing content).total := by
  rw [Tokenized.faults_substitute, hSpans, List.filterMap_eq_nil_iff] at hFaults
  rw [Tokenized.count_substitute, total_census, hSpans]
  apply List.countP_congr
  intro span hMem
  obtain ⟨key, hKey⟩ := Tokenized.fault?_eq_none_iff.mp (hFaults span (List.mem_reverse.mpr hMem))
  have hCounted := Tokenized.keyOfBody_of_key? hKey
  have hValue := hValues key (mem_keys_census_iff.mpr ⟨span, hMem, hCounted⟩)
  simp [Tokenized.isReplaced, hKey, hCounted, hValue, Except.toOption]

/-- A scan and a search take the same spans at the same offsets exactly when no scanned body
holds the end of a line. Where they do, values for all counted keys make the count of a
replacement without faults the total of the census. -/
theorem spans_agree_iff_on_lines (opening closing : String) (content : Bytes)
    (hOpening : opening ≠ "") (hClosing : closing ≠ "") :
    let scanned := Span.scan (Utf8.encode opening) (Utf8.encode closing) content
    let searched := Span.search (Utf8.encode opening) (Utf8.encode closing) content
    (scanned.map (fun span => (span.start, span.body)) =
        searched.map (fun span => (span.start, span.body)) ↔
      ∀ span ∈ scanned, Span.newline ∉ span.body) ∧
    ((∀ span ∈ scanned, Span.newline ∉ span.body) → ∀ values : Values,
      (∀ key ∈ (census opening closing content).keys, (values.effective.get? key).isSome) →
      (Tokenized.substitute opening closing values content).faults = [] →
      (Tokenized.substitute opening closing values content).count =
        (census opening closing content).total) := by
  intro scanned searched
  have hAgree : (∀ span ∈ scanned, Span.newline ∉ span.body) → searched = scanned :=
    Span.search_eq_scan (Utf8.encode_ne_nil hOpening) (Utf8.encode_ne_nil hClosing)
  refine ⟨⟨?_, ?_⟩, ?_⟩
  · intro hSame span hMem
    have hImage : (span.start, span.body) ∈ searched.map fun span => (span.start, span.body) :=
      hSame ▸ List.mem_map_of_mem hMem
    obtain ⟨other, hOther, hPair⟩ := List.mem_map.mp hImage
    rw [← (Prod.mk.inj hPair).2]
    exact Span.newline_not_mem_of_mem_searchFrom hOther
  · intro hLines
    rw [hAgree hLines]
  · intro hLines values hValues hFaults
    exact count_eq_total (hAgree hLines) hValues hFaults

/-- The opening overlaps itself, and the last one has no closing. -/
theorem spans_agree_on_overlapping_openings :
    let content := Utf8.encode "[[[A]] [[B:toUpperCase]] [[C"
    let values : Values := { assignments := [⟨"[A", "x"⟩, ⟨"B", "]]"⟩] }
    (∀ span ∈ Span.scan (Utf8.encode "[[") (Utf8.encode "]]") content,
      Span.newline ∉ span.body) ∧
    (∀ key ∈ (census "[[" "]]" content).keys, (values.effective.get? key).isSome) ∧
    (Tokenized.substitute "[[" "]]" values content).faults = [] ∧
    (Tokenized.substitute "[[" "]]" values content).count =
      (census "[[" "]]" content).total := by
  intro content values
  have hLines : ∀ span ∈ Span.scan (Utf8.encode "[[") (Utf8.encode "]]") content,
      Span.newline ∉ span.body := by decide +kernel
  have hValues : ∀ key ∈ (census "[[" "]]" content).keys,
      (values.effective.get? key).isSome := by decide +kernel
  have hFaults : (Tokenized.substitute "[[" "]]" values content).faults = [] := by
    decide +kernel
  have hAgree := spans_agree_iff_on_lines "[[" "]]" content (by decide) (by decide)
  exact ⟨hLines, hValues, hFaults, hAgree.2 hLines values hValues hFaults⟩

end Survey

end Stencil
