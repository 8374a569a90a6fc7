import Stencil.Proofs.Occurrence
import Stencil.Span

/-! A scan and a search of one content. Both take the first opening with the first closing
behind it. They part only where that closing stands on a later line: the scan takes it, and
the search looks for another opening. -/

namespace Stencil.Span

variable {opening closing content : Bytes}

/-- A closing on the line is the first closing of all, if no line ends before it. -/
theorem closeOnLine?_eq_filter (closing rest : Bytes) :
    closeOnLine? closing rest =
      (Occurrence.cut? closing rest).filter fun cut => newline ∉ cut.1 := by
  induction rest with
  | nil => cases closing <;> simp [closeOnLine?, Occurrence.cut?, Option.filter]
  | cons b rest ih =>
      rw [closeOnLine?, Occurrence.cut?]
      cases hAfter : Occurrence.afterFront? closing (b :: rest) with
      | some after => simp [Option.filter]
      | none =>
          by_cases hLine : b = newline
          · subst hLine
            cases Occurrence.cut? closing rest <;> simp [Option.filter]
          · rw [if_neg hLine, ih]
            cases hCut : Occurrence.cut? closing rest with
            | none => rfl
            | some cut =>
                by_cases hBody : newline ∈ cut.1 <;>
                  simp [Option.filter, hBody, Ne.symm hLine]

theorem closeOnLine?_eq_none (hNone : Occurrence.cut? closing content = none) :
    closeOnLine? closing content = none := by
  rw [closeOnLine?_eq_filter, hNone, Option.filter_none]

theorem here?_append (opening closing rest : Bytes) :
    here? opening closing (opening ++ rest) = closeOnLine? closing rest := by
  rw [here?, Occurrence.afterFront?_append, Option.bind_some]

/-- A search passes over every position at which no span begins. -/
theorem searchFrom_of_here?_eq_none {b : UInt8} {rest : Bytes} (offset : Nat)
    (hHere : here? opening closing (b :: rest) = none) :
    searchFrom opening closing offset (b :: rest) =
      searchFrom opening closing (offset + 1) rest := by
  rw [searchFrom, hHere]

theorem searchFrom_of_here? (hOpening : opening ≠ []) (offset : Nat) {body after : Bytes}
    (hHere : here? opening closing content = some (body, after)) :
    searchFrom opening closing offset content =
      ⟨offset, body, offset + opening.length + body.length + closing.length⟩ ::
        searchFrom opening closing
          (offset + opening.length + body.length + closing.length) after := by
  obtain ⟨rest, hRest, hClose⟩ := Option.bind_eq_some_iff.mp hHere
  have hContent := Occurrence.afterFront?_eq_some_iff.mp hRest
  have hCut : Occurrence.cut? closing rest = some (body, after) := by
    rw [closeOnLine?_eq_filter] at hClose
    exact (Option.filter_eq_some_iff.mp hClose).1
  have hShorter : after.length < content.length := by
    have hPositive := List.length_pos_iff.mpr hOpening
    rw [hContent, List.length_append, Occurrence.length_of_cut? hCut]
    omega
  rw [searchFrom.eq_def, hHere]
  simp only [hShorter, ↓reduceDIte]

/-- A search comes to the first opening without having found anything. -/
theorem searchFrom_of_cut? (hOpening : opening ≠ []) (offset : Nat) {gap rest : Bytes}
    (hCut : Occurrence.cut? opening content = some (gap, rest)) :
    searchFrom opening closing offset content =
      searchFrom opening closing (offset + gap.length) (opening ++ rest) := by
  induction content generalizing offset gap with
  | nil => cases opening <;> simp_all [Occurrence.cut?]
  | cons b tail ih =>
      rw [Occurrence.cut?] at hCut
      cases hAfter : Occurrence.afterFront? opening (b :: tail) with
      | some after =>
          rw [hAfter] at hCut
          obtain ⟨rfl, rfl⟩ := Prod.mk.inj (Option.some.inj hCut)
          rw [Occurrence.afterFront?_eq_some_iff.mp hAfter]
          rfl
      | none =>
          rw [hAfter] at hCut
          obtain ⟨⟨gap', rest'⟩, hInner, hSame⟩ := Option.map_eq_some_iff.mp hCut
          obtain ⟨rfl, rfl⟩ := Prod.mk.inj hSame
          rw [searchFrom_of_here?_eq_none offset (by simp [here?, hAfter]), ih (offset + 1) hInner,
            List.length_cons]
          congr 1
          omega

theorem here?_eq_none
    (hOpen : ∀ rest, opening ++ rest <:+ content → Occurrence.cut? closing rest = none) :
    here? opening closing content = none := by
  rw [here?, Option.bind_eq_none_iff]
  intro rest hRest
  have hContent := Occurrence.afterFront?_eq_some_iff.mp hRest
  exact closeOnLine?_eq_none (hOpen rest (hContent ▸ List.suffix_refl content))

/-- Without a closing behind any opening there is nothing to find. -/
theorem searchFrom_eq_nil (offset : Nat)
    (hOpen : ∀ rest, opening ++ rest <:+ content → Occurrence.cut? closing rest = none) :
    searchFrom opening closing offset content = [] := by
  have hHere := here?_eq_none hOpen
  induction content generalizing offset with
  | nil => rw [searchFrom, hHere]
  | cons b tail ih =>
      have hTail : ∀ rest, opening ++ rest <:+ tail → Occurrence.cut? closing rest = none :=
        fun rest hRest => hOpen rest (hRest.trans (List.suffix_cons b tail))
      rw [searchFrom_of_here?_eq_none offset hHere]
      exact ih (offset + 1) hTail (here?_eq_none hTail)

theorem searchFrom_eq_nil_of_no_opening (offset : Nat)
    (hNone : Occurrence.cut? opening content = none) :
    searchFrom opening closing offset content = [] := by
  refine searchFrom_eq_nil offset fun rest hRest => ?_
  have hInfix : opening <:+: content :=
    (List.prefix_append opening rest).isInfix.trans hRest.isInfix
  exact absurd hInfix (Occurrence.cut?_eq_none_iff.mp hNone)

theorem searchFrom_eq_nil_of_no_closing (offset : Nat) {rest : Bytes}
    (hNone : Occurrence.cut? closing rest = none) :
    searchFrom opening closing offset (opening ++ rest) = [] := by
  refine searchFrom_eq_nil offset fun rest' hRest => ?_
  have hLength : rest'.length ≤ rest.length := by
    have := hRest.length_le
    simp only [List.length_append] at this
    omega
  have hTail : rest' <:+ rest :=
    List.suffix_of_suffix_length_le ((List.suffix_append opening rest').trans hRest)
      (List.suffix_append opening rest) hLength
  exact Occurrence.cut?_eq_none_of_suffix hTail hNone

theorem newline_not_mem_of_here? {body after : Bytes}
    (hHere : here? opening closing content = some (body, after)) : newline ∉ body := by
  obtain ⟨rest, _, hClose⟩ := Option.bind_eq_some_iff.mp hHere
  rw [closeOnLine?_eq_filter] at hClose
  simpa using (Option.filter_eq_some_iff.mp hClose).2

/-- The body of a span that was searched for lies on one line. -/
theorem newline_not_mem_of_mem_searchFrom {offset : Nat} {span : Span}
    (hMem : span ∈ searchFrom opening closing offset content) : newline ∉ span.body := by
  fun_induction searchFrom opening closing offset content with
  | case1 offset content body after hHere stop shorter ih =>
      rcases List.mem_cons.mp hMem with rfl | hMem
      · exact newline_not_mem_of_here? hHere
      · exact ih hMem
  | case2 offset body after stop longer hHere =>
      rw [List.mem_singleton.mp hMem]
      exact newline_not_mem_of_here? hHere
  | case3 offset body after stop b rest longer hHere ih =>
      rcases List.mem_cons.mp hMem with rfl | hMem
      · exact newline_not_mem_of_here? hHere
      · exact ih hMem
  | case4 => exact absurd hMem List.not_mem_nil
  | case5 offset b rest hHere ih => exact ih hMem

/-- A scan takes the first opening with the first closing behind it. -/
theorem scanFrom_of_cut? (hOpening : opening ≠ []) (offset : Nat)
    {gap rest body after : Bytes}
    (hOpen : Occurrence.cut? opening content = some (gap, rest))
    (hClose : Occurrence.cut? closing rest = some (body, after)) :
    scanFrom opening closing offset content =
      ⟨offset + gap.length, body,
          offset + gap.length + opening.length + body.length + closing.length⟩ ::
        scanFrom opening closing
          (offset + gap.length + opening.length + body.length + closing.length) after := by
  have hShorter : after.length < content.length := by
    have hPositive := List.length_pos_iff.mpr hOpening
    rw [Occurrence.length_of_cut? hOpen, Occurrence.length_of_cut? hClose]
    omega
  rw [scanFrom.eq_def, hOpen]
  simp only [hClose, hShorter, ↓reduceDIte]

/-- While no scanned body runs over the end of a line, the search takes the same spans and
goes on from the same places. -/
theorem searchFrom_eq_scanFrom (hOpening : opening ≠ []) (offset : Nat)
    (hLines : ∀ span ∈ scanFrom opening closing offset content, newline ∉ span.body) :
    searchFrom opening closing offset content = scanFrom opening closing offset content := by
  fun_induction scanFrom opening closing offset content with
  | case1 offset content hOpen => exact searchFrom_eq_nil_of_no_opening offset hOpen
  | case2 offset content gap rest hOpen hClose =>
      rw [searchFrom_of_cut? hOpening offset hOpen, searchFrom_eq_nil_of_no_closing _ hClose]
  | case3 offset content gap rest hOpen body after hClose start stop shorter ih =>
      have hBody : newline ∉ body := hLines _ List.mem_cons_self
      have hHere : here? opening closing (opening ++ rest) = some (body, after) := by
        rw [here?_append, closeOnLine?_eq_filter, hClose]
        simp [Option.filter, hBody]
      rw [searchFrom_of_cut? hOpening offset hOpen, searchFrom_of_here? hOpening _ hHere]
      exact congrArg _ (ih fun span hMem => hLines span (List.mem_cons_of_mem _ hMem))
  | case4 offset content gap rest hOpen body after hClose longer =>
      have hPositive := List.length_pos_iff.mpr hOpening
      rw [Occurrence.length_of_cut? hOpen, Occurrence.length_of_cut? hClose] at longer
      omega

theorem search_eq_scan (hOpening : opening ≠ []) (hClosing : closing ≠ [])
    (hLines : ∀ span ∈ scan opening closing content, newline ∉ span.body) :
    search opening closing content = scan opening closing content := by
  have hScan : scan opening closing content = scanFrom opening closing 0 content := by
    simp [scan, hOpening, hClosing]
  rw [hScan] at hLines ⊢
  exact searchFrom_eq_scanFrom hOpening 0 hLines

end Stencil.Span
