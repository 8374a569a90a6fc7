import Stencil.Proofs.Span.Filling

/-! What a search finds, told by offsets into the whole content. The next span begins at the least
offset at which an opening has some closing behind it on its line, it ends with the first of these
closings, and the search goes on from there. A content has just one such list of spans. -/

namespace Stencil.Span

/-- Whether `needle` stands in a content at an offset. -/
def StandsAt (needle content : Bytes) (offset : Nat) : Prop := needle <+: content.drop offset

/-- The bytes from one offset up to another one. -/
def between (content : Bytes) (start stop : Nat) : Bytes :=
  (content.drop start).take (stop - start)

/-- An opening, and a closing behind it on the same line, which need not be the first one. -/
structure Paired (opening closing content : Bytes) (start close : Nat) : Prop where
  opens : StandsAt opening content start
  behind : start + opening.length ≤ close
  closes : StandsAt closing content close
  on_line : newline ∉ between content (start + opening.length) close

/-- The spans of a content from an offset on: each the next one that is paired, and no longer than
need be. -/
inductive Leftmost (opening closing content : Bytes) : Nat → List Span → Prop
  | done {cursor : Nat}
      (hNone : ∀ start close, cursor ≤ start → ¬ Paired opening closing content start close) :
      Leftmost opening closing content cursor []
  | next {cursor start close : Nat} {spans : List Span} (hStart : cursor ≤ start)
      (hPaired : Paired opening closing content start close)
      (hLeast : ∀ start' close', cursor ≤ start' →
        Paired opening closing content start' close' → start ≤ start')
      (hShort : ∀ close', Paired opening closing content start close' → close ≤ close')
      (hRest : Leftmost opening closing content (close + closing.length) spans) :
      Leftmost opening closing content cursor
        (⟨start, between content (start + opening.length) close, close + closing.length⟩ :: spans)

theorem StandsAt.le_length {needle content : Bytes} {offset : Nat} (hNeedle : needle ≠ [])
    (hStands : StandsAt needle content offset) : offset + needle.length ≤ content.length := by
  have hLength := List.IsPrefix.length_le hStands
  have hPositive := List.length_pos_iff.mpr hNeedle
  rw [List.length_drop] at hLength
  omega

section

variable {opening closing : Bytes}

/-- What is paired at the beginning of a rest of the content. -/
theorem paired_append_iff (hClosing : closing ≠ []) {front content : Bytes} {close : Nat} :
    Paired opening closing (front ++ content) front.length close ↔
      ∃ body after, newline ∉ body ∧ content = opening ++ body ++ closing ++ after ∧
        close = front.length + opening.length + body.length := by
  constructor
  · rintro ⟨⟨rest, hOpens⟩, hBehind, ⟨after, hCloses⟩, hLine⟩
    rw [List.drop_left] at hOpens
    subst hOpens
    obtain ⟨size, rfl⟩ := Nat.exists_eq_add_of_le hBehind
    have hDrop : (front ++ (opening ++ rest)).drop (front.length + opening.length) = rest := by
      rw [← List.append_assoc, ← List.length_append, List.drop_left]
    rw [← List.drop_drop, hDrop] at hCloses
    rw [between, hDrop, Nat.add_sub_cancel_left] at hLine
    have hSize : size ≤ rest.length := by
      have hLength := congrArg List.length hCloses
      have hPositive := List.length_pos_iff.mpr hClosing
      rw [List.length_append, List.length_drop] at hLength
      omega
    refine ⟨rest.take size, after, hLine, ?_, by rw [List.length_take_of_le hSize]⟩
    rw [List.append_assoc, List.append_assoc, hCloses, List.take_append_drop]
  · rintro ⟨body, after, hLine, rfl, rfl⟩
    have hOpen : (front ++ (opening ++ body ++ closing ++ after)).drop
        (front.length + opening.length) = body ++ (closing ++ after) := by
      rw [← List.length_append, List.append_assoc, List.append_assoc, ← List.append_assoc front,
        List.drop_left]
    refine ⟨?_, Nat.le_add_right _ _, ?_, ?_⟩
    · rw [StandsAt, List.drop_left, List.append_assoc, List.append_assoc]
      exact List.prefix_append _ _
    · rw [StandsAt, ← List.drop_drop, hOpen, List.drop_left]
      exact List.prefix_append _ _
    · rwa [between, hOpen, Nat.add_sub_cancel_left, List.take_left]

theorem not_paired_of_here? (hClosing : closing ≠ []) {front content : Bytes}
    (hHere : here? opening closing content = none) (close : Nat) :
    ¬ Paired opening closing (front ++ content) front.length close := by
  rw [← Option.not_isSome_iff_eq_none, isSome_here?_iff] at hHere
  rw [paired_append_iff hClosing]
  rintro ⟨body, after, hLine, hContent, -⟩
  exact hHere ⟨body, after, hLine, hContent⟩

/-- A span that is found here ends with the first closing. -/
theorem length_le_of_here? {content body after body' after' : Bytes}
    (hHere : here? opening closing content = some (body, after))
    (hContent : content = opening ++ body' ++ closing ++ after') : body.length ≤ body'.length := by
  obtain ⟨first, rest, hCut, hFirst⟩ := Occurrence.exists_cut?_append body' closing after'
  rw [hContent, List.append_assoc, List.append_assoc, here?_append, ← List.append_assoc,
    closeOnLine?_eq_filter, hCut] at hHere
  obtain ⟨hSame, -⟩ := Option.filter_eq_some_iff.mp hHere
  rw [← (Prod.mk.inj (Option.some.inj hSame)).1]
  exact hFirst.length_le

/-- An offset at which nothing is paired may be passed over. -/
theorem Leftmost.of_succ {content : Bytes} {cursor : Nat} {spans : List Span}
    (hNone : ∀ close, ¬ Paired opening closing content cursor close)
    (hRest : Leftmost opening closing content (cursor + 1) spans) :
    Leftmost opening closing content cursor spans := by
  have hLater {start close : Nat} (hStart : cursor ≤ start)
      (hPaired : Paired opening closing content start close) : cursor + 1 ≤ start := by
    rcases Nat.eq_or_lt_of_le hStart with rfl | hLess
    · exact absurd hPaired (hNone close)
    · exact hLess
  cases hRest with
  | done hNever =>
      exact .done fun start close hStart hPaired =>
        hNever start close (hLater hStart hPaired) hPaired
  | next hStart hPaired hLeast hShort hRest =>
      exact .next (Nat.le_of_succ_le hStart) hPaired
        (fun start' close' hStart' hPaired' =>
          hLeast start' close' (hLater hStart' hPaired') hPaired') hShort hRest

theorem leftmost_searchFrom (hOpening : opening ≠ []) (hClosing : closing ≠ [])
    (front content : Bytes) :
    Leftmost opening closing (front ++ content) front.length
      (searchFrom opening closing front.length content) := by
  induction content using search_induction closing hOpening generalizing front with
  | nil =>
      rw [searchFrom_eq_nil_of_no_opening _ (by simp [Occurrence.cut?, hOpening])]
      refine .done fun start close hStart hPaired => ?_
      have hLength := hPaired.opens.le_length hOpening
      have hPositive := List.length_pos_iff.mpr hOpening
      rw [List.append_nil] at hLength
      omega
  | byte b rest hHere ih =>
      have hRest := ih (front ++ [b])
      rw [List.append_assoc, List.length_append, List.length_singleton] at hRest
      rw [searchFrom_of_here?_eq_none _ hHere]
      exact .of_succ (not_paired_of_here? hClosing hHere) hRest
  | span content body after hHere ih =>
      have hContent := eq_append_of_here? hHere
      have hPaired : Paired opening closing (front ++ content) front.length
          (front.length + opening.length + body.length) :=
        (paired_append_iff hClosing).mpr
          ⟨body, after, newline_not_mem_of_here? hHere, hContent, rfl⟩
      have hBody : between (front ++ content) (front.length + opening.length)
          (front.length + opening.length + body.length) = body := by
        rw [between, Nat.add_sub_cancel_left, hContent, ← List.length_append, List.append_assoc,
          List.append_assoc, ← List.append_assoc front, List.drop_left, List.take_left]
      have hRest := ih (front ++ (opening ++ body ++ closing))
      have hLength : (front ++ (opening ++ body ++ closing)).length =
          front.length + opening.length + body.length + closing.length := by
        simp only [List.length_append]
        omega
      rw [List.append_assoc, ← hContent, hLength] at hRest
      have hNext := Leftmost.next (Nat.le_refl _) hPaired (fun _ _ hStart' _ => hStart') ?_ hRest
      · rw [hBody] at hNext
        rw [searchFrom_of_here? hOpening _ hHere]
        exact hNext
      · intro close' hPaired'
        obtain ⟨body', after', -, hContent', rfl⟩ := (paired_append_iff hClosing).mp hPaired'
        have hLess := length_le_of_here? hHere hContent'
        omega

/-- From an offset on there is just one list of spans. -/
theorem Leftmost.unique {content : Bytes} {cursor : Nat} {spans spans' : List Span}
    (hSpans : Leftmost opening closing content cursor spans)
    (hSpans' : Leftmost opening closing content cursor spans') : spans = spans' := by
  induction hSpans generalizing spans' with
  | done hNone =>
      cases hSpans' with
      | done => rfl
      | next hStart hPaired => exact absurd hPaired (hNone _ _ hStart)
  | @next cursor start close spans hStart hPaired hLeast hShort hRest ih =>
      cases hSpans' with
      | done hNone => exact absurd hPaired (hNone _ _ hStart)
      | @next _ start' close' spans' hStart' hPaired' hLeast' hShort' hRest' =>
          obtain rfl : start = start' :=
            Nat.le_antisymm (hLeast _ _ hStart' hPaired') (hLeast' _ _ hStart hPaired)
          obtain rfl : close = close' :=
            Nat.le_antisymm (hShort _ hPaired') (hShort' _ hPaired)
          rw [ih hRest']

/-- A search finds the spans of a content, and is the only one to. -/
theorem leftmost_iff (hOpening : opening ≠ []) (hClosing : closing ≠ []) {content : Bytes}
    {spans : List Span} :
    Leftmost opening closing content 0 spans ↔ spans = search opening closing content := by
  have hSearch : Leftmost opening closing content 0 (search opening closing content) :=
    leftmost_searchFrom hOpening hClosing [] content
  constructor
  · exact fun hSpans => hSpans.unique hSearch
  · rintro rfl
    exact hSearch

end

end Stencil.Span
