import Mathlib.Algebra.GroupWithZero.Nat
import Stencil.Proofs.Path
import Stencil.Proofs.Substitution.Settled

/-! Substitution line by line. No span runs over the end of a line, so what is found on one line is
found there whatever stands on the others, and a content is substituted as its lines are, one by
one. -/

namespace Stencil

open Text

namespace Span

section Line

variable {opening closing : Bytes} (hOpening : opening ≠ []) (hOpeningLine : newline ∉ opening)
  (hClosingLine : newline ∉ closing)

include hOpeningLine hClosingLine in
/-- Where no span begins, none begins with another line behind. -/
theorem here?_append_line {content : Bytes} (hHere : here? opening closing content = none)
    (rest : Bytes) : here? opening closing (content ++ newline :: rest) = none := by
  rw [← Option.not_isSome_iff_eq_none, isSome_here?_iff] at hHere ⊢
  rintro ⟨body, after, hBody, hText⟩
  rcases List.append_eq_append_iff.mp hText with ⟨more, hSpan, hRest⟩ | ⟨more, hContent, -⟩
  · cases more with
    | nil =>
        rw [List.append_nil] at hSpan
        exact hHere ⟨body, [], hBody, by rw [hSpan, List.append_nil]⟩
    | cons b more =>
        -- the end of the line would stand in the span
        obtain rfl : newline = b := (List.cons.inj hRest).1
        have hMem : newline ∈ opening ++ body ++ closing :=
          hSpan ▸ List.mem_append_right content List.mem_cons_self
        simp [hOpeningLine, hBody, hClosingLine] at hMem
  · exact hHere ⟨body, more, hBody, hContent⟩

theorem here?_append_rest {content body after : Bytes} (rest : Bytes)
    (hHere : here? opening closing content = some (body, after)) :
    here? opening closing (content ++ rest) = some (body, after ++ rest) := by
  rw [eq_append_of_here? hHere, List.append_assoc]
  exact here?_append_congr (after ++ rest) hHere

include hOpening hOpeningLine hClosingLine in
/-- The spans of two lines are those of the first, and then those of the second. -/
theorem searchFrom_append_line (offset : Nat) (content rest : Bytes) :
    searchFrom opening closing offset (content ++ newline :: rest) =
      searchFrom opening closing offset content ++
        searchFrom opening closing (offset + content.length + 1) rest := by
  induction content using search_induction closing hOpening generalizing offset with
  | nil =>
      have hHere := here?_cons_eq_none closing hOpening hOpeningLine rest
      rw [List.nil_append, searchFrom_of_here?_eq_none offset hHere,
        searchFrom_eq_nil_of_no_opening offset (by simp [Occurrence.cut?, hOpening])]
      rfl
  | byte b tail hHere ih =>
      have hLonger := here?_append_line hOpeningLine hClosingLine hHere rest
      rw [List.cons_append] at hLonger ⊢
      rw [searchFrom_of_here?_eq_none offset hLonger, searchFrom_of_here?_eq_none offset hHere, ih,
        List.length_cons]
      congr 2
      omega
  | span content body after hHere ih =>
      have hLength := congrArg List.length (eq_append_of_here? hHere)
      simp only [List.length_append] at hLength
      rw [searchFrom_of_here? hOpening offset (here?_append_rest _ hHere),
        searchFrom_of_here? hOpening offset hHere, ih, List.cons_append]
      congr 3
      omega

include hOpening in
/-- Where a search starts counting has no say in what it finds. -/
theorem map_body_searchFrom (offset offset' : Nat) (content : Bytes) :
    (searchFrom opening closing offset content).map Span.body =
      (searchFrom opening closing offset' content).map Span.body := by
  induction content using search_induction closing hOpening generalizing offset offset' with
  | nil =>
      have hNone : Occurrence.cut? opening [] = none := by simp [Occurrence.cut?, hOpening]
      rw [searchFrom_eq_nil_of_no_opening offset hNone,
        searchFrom_eq_nil_of_no_opening offset' hNone]
  | byte b rest hHere ih =>
      rw [searchFrom_of_here?_eq_none offset hHere, searchFrom_of_here?_eq_none offset' hHere]
      exact ih _ _
  | span content body after hHere ih =>
      rw [searchFrom_of_here? hOpening offset hHere, searchFrom_of_here? hOpening offset' hHere,
        List.map_cons, List.map_cons]
      exact congrArg (body :: ·) (ih _ _)

include hOpening hOpeningLine hClosingLine in
theorem map_body_search_line (content rest : Bytes) :
    (search opening closing (content ++ newline :: rest)).map Span.body =
      (search opening closing content).map Span.body ++
        (search opening closing rest).map Span.body := by
  rw [search, search, search, searchFrom_append_line hOpening hOpeningLine hClosingLine,
    List.map_append, map_body_searchFrom hOpening _ 0 rest]

include hOpening hOpeningLine hClosingLine in
theorem Filled.append_line {value? : Bytes → Option Bytes} {content filled rest filled' : Bytes}
    (hFilled : Filled opening closing value? content filled)
    (hRest : Filled opening closing value? rest filled') :
    Filled opening closing value? (content ++ newline :: rest) (filled ++ newline :: filled') := by
  induction hFilled with
  | nil => exact .byte (here?_cons_eq_none closing hOpening hOpeningLine rest) hRest
  | byte hHere _ ih => exact .byte (here?_append_line hOpeningLine hClosingLine hHere rest) ih
  | left hHere hBody _ ih =>
      rw [List.append_assoc]
      exact .left (here?_append_rest _ hHere) hBody ih
  | given hHere hBody _ ih =>
      rw [List.append_assoc]
      exact .given (here?_append_rest _ hHere) hBody ih

end Line

end Span

namespace Substitution.Tokenized

/-- How many spans are replaced is told by their bodies. -/
theorem countP_isReplaced (lookup : Table String String) (spans : List Span) :
    spans.countP (isReplaced lookup) =
      (spans.map Span.body).countP fun body => (replacement? lookup body).isSome := by
  rw [List.countP_map]
  exact List.countP_congr fun span _ => by rw [isReplaced_eq]; rfl

section Line

variable {opening closing : String} (values : Values) (hOpening : opening ≠ "")
  (hOpeningLine : Span.newline ∉ Utf8.encode opening)
  (hClosingLine : Span.newline ∉ Utf8.encode closing)

include hOpening hOpeningLine hClosingLine

/-- Two lines are substituted each by itself. Faults are met on the last line first. -/
theorem substitute_append_line (content rest : Bytes) :
    let first := substitute opening closing values content
    let second := substitute opening closing values rest
    substitute opening closing values (content ++ Span.newline :: rest) =
      ⟨first.content ++ Span.newline :: second.content, first.count + second.count,
        second.faults ++ first.faults⟩ := by
  intro first second
  have hOpen := Utf8.encode_ne_nil hOpening
  have hBodies := Span.map_body_search_line hOpen hOpeningLine hClosingLine content rest
  rw [← List.map_append] at hBodies
  rw [Substituted.mk.injEq]
  refine ⟨?_, ?_, ?_⟩
  · have hFirst := filled_substitute hOpening closing values content
    have hSecond := filled_substitute hOpening closing values rest
    exact (filled_substitute hOpening closing values _).unique hOpen
      (hFirst.append_line hOpen hOpeningLine hClosingLine hSecond)
  · rw [count_substitute, countP_isReplaced, hBodies, ← countP_isReplaced, List.countP_append,
      ← count_substitute, ← count_substitute]
  · rw [faults_substitute, List.filterMap_reverse, filterMap_fault?_congr hBodies,
      List.filterMap_append, List.reverse_append, ← List.filterMap_reverse,
      ← List.filterMap_reverse, ← faults_substitute, ← faults_substitute]

theorem substitute_joinFields {lines : List Bytes} (hLines : lines ≠ []) :
    substitute opening closing values (Occurrence.joinFields Span.newline lines) =
      ⟨Occurrence.joinFields Span.newline
          (lines.map fun line => (substitute opening closing values line).content),
        (lines.map fun line => (substitute opening closing values line).count).sum,
        lines.reverse.flatMap fun line => (substitute opening closing values line).faults⟩ := by
  induction lines with
  | nil => exact absurd rfl hLines
  | cons line lines ih =>
      by_cases hMore : lines = []
      · subst hMore
        simp [Occurrence.joinFields]
      · rw [List.map_cons, Occurrence.joinFields_cons _ _ hMore,
          Occurrence.joinFields_cons _ _ (by simpa using hMore),
          substitute_append_line values hOpening hOpeningLine hClosingLine, ih hMore]
        simp

end Line

/-- What is put in place on one line depends on that line alone, whether the lines are two or all
those of a content. -/
theorem substitute_line_by_line (opening closing : String) (values : Values)
    (hOpening : opening ≠ "") (hOpeningLine : Span.newline ∉ Utf8.encode opening)
    (hClosingLine : Span.newline ∉ Utf8.encode closing) :
    let result := substitute opening closing values
    (∀ front back : Bytes,
      result (front ++ Span.newline :: back) =
        ⟨(result front).content ++ Span.newline :: (result back).content,
          (result front).count + (result back).count,
          (result back).faults ++ (result front).faults⟩) ∧
    ∀ content : Bytes,
      let lines := Occurrence.fields Span.newline content
      result content =
        ⟨Occurrence.joinFields Span.newline (lines.map fun line => (result line).content),
          (lines.map fun line => (result line).count).sum,
          lines.reverse.flatMap fun line => (result line).faults⟩ := by
  intro result
  refine ⟨substitute_append_line values hOpening hOpeningLine hClosingLine, ?_⟩
  intro content lines
  have hJoined := substitute_joinFields values hOpening hOpeningLine hClosingLine
    (Occurrence.fields_ne_nil Span.newline content)
  rw [Occurrence.joinFields_fields] at hJoined
  exact hJoined

/-- The first line ends within an opening that the second one would close, and two bodies cannot be
read. -/
theorem substitute_line_by_line_past_unclosed_opening :
    let content := Utf8.encode "[[B:]] [[A\n]] [[B]] [[:]]\n[[[[A]]"
    let values : Values := { assignments := [⟨"A", "x"⟩, ⟨"B", "]]\n[["⟩, ⟨"[[A", "y"⟩] }
    let result := substitute "[[" "]]" values
    let lines := Occurrence.fields Span.newline content
    "[[" ≠ "" ∧ Span.newline ∉ Utf8.encode "[[" ∧ Span.newline ∉ Utf8.encode "]]" ∧
    lines.map (fun line => (result line).count) = [0, 1, 1] ∧
    result content =
      ⟨Occurrence.joinFields Span.newline (lines.map fun line => (result line).content),
        (lines.map fun line => (result line).count).sum,
        lines.reverse.flatMap fun line => (result line).faults⟩ ∧
    result content = ⟨Utf8.encode "[[B:]] [[A\n]] ]]\n[[ [[:]]\ny", 2,
      [(Utf8.encode ":", .emptyPlaceholder),
        (Utf8.encode "B:", .unsupportedTransformation "")]⟩ := by
  intro content values result lines
  have hLines := (substitute_line_by_line "[[" "]]" values (by decide) (by decide) (by decide)).2
  exact ⟨by decide, by decide, by decide, by decide +kernel, hLines content, by decide +kernel⟩

end Substitution.Tokenized

end Stencil
