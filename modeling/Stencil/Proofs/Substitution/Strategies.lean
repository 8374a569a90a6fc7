import Stencil.Proofs.Discovery
import Stencil.Proofs.Occurrence.Replacing
import Stencil.Proofs.Substitution.Draft
import Stencil.Proofs.Substitution.Settled
import Stencil.Proofs.Survey.Conservation
import Stencil.Substitution.Literal

/-! Both substitutions of a tidy draft. One takes all spans of a single search, the other goes over
the whole content once for each key. They come to the same, since a token can only stand where a
span with its key was put, and what a pass leaves is a tidy draft again. -/

namespace Stencil

open Text

variable {opening closing : String}

namespace Substitution.Tokenized

theorem placeholder_encode {key : String} (hKey : PlainKey opening closing key) :
    placeholder (Utf8.encode key) = .ok ⟨key, []⟩ := by
  have hCut := Occurrence.cutAt?_eq_none_iff.mpr hKey.noColon
  have hBase : Placeholder.baseKeyOf key = .ok key := by
    simp [Placeholder.baseKeyOf, hKey.notBlank, hCut]
  have hSpecifiers : Placeholder.specifiersOf key = [] := by
    simp [Placeholder.specifiersOf, hCut]
  rw [placeholder, Utf8.decode?_encode]
  simp only [Placeholder.parse, Placeholder.split, hBase, hSpecifiers, Except.map]
  rfl

theorem key?_encode {key : String} (hKey : PlainKey opening closing key) :
    key? (Utf8.encode key) = some key := by
  rw [key?, placeholder_encode hKey]
  rfl

theorem replacement?_encode {key : String} (hKey : PlainKey opening closing key)
    (lookup : Table String String) :
    replacement? lookup (Utf8.encode key) = (lookup.get? key).map Utf8.encode := by
  rw [replacement?, placeholder_encode hKey]
  rfl

theorem filled_render (hSeparate : Separate opening closing) (lookup : Table String String)
    {draft : Draft} (hTidy : draft.Tidy opening closing) :
    Span.Filled (Utf8.encode opening) (Utf8.encode closing) (replacement? lookup)
      (draft.render opening closing) ((draft.fill lookup.get?).render opening closing) := by
  have hOpening := Utf8.encode_ne_nil hSeparate.opening_ne
  have hClosing := Utf8.encode_ne_nil hSeparate.closing_ne
  induction draft with
  | nil => exact .nil
  | cons piece draft ih =>
      obtain ⟨hPiece, hDraft⟩ := List.forall_mem_cons.mp hTidy
      have hRest := ih hDraft
      rw [Draft.render_cons, Draft.fill_cons, Draft.render_cons]
      cases piece with
      | text bytes => exact hRest.append_of_apart hOpening fun b hMem => (hPiece b hMem).1
      | span key =>
          have hHere := Span.here?_span (Utf8.encode opening) hClosing
            (fun b hMem => (hPiece.clear b hMem).2) hPiece.newline_not_mem
            (Draft.render opening closing draft)
          have hBody := replacement?_encode hPiece lookup
          cases hValue : lookup.get? key with
          | none =>
              rw [hValue] at hBody
              simpa [Piece.fill, Piece.render, hValue] using Span.Filled.left hHere hBody hRest
          | some value =>
              rw [hValue] at hBody
              simpa [Piece.fill, Piece.render, hValue] using Span.Filled.given hHere hBody hRest

theorem substitute_render (hSeparate : Separate opening closing) (values : Values)
    {draft : Draft} (hTidy : draft.Tidy opening closing) :
    substitute opening closing values (draft.render opening closing) =
      ⟨(draft.fill values.effective.get?).render opening closing,
        draft.countP (Piece.isFilled values.effective.get?), []⟩ := by
  have hBodies := Draft.bodies_search hSeparate hTidy
  rw [Substituted.mk.injEq]
  refine ⟨?_, ?_, ?_⟩
  · exact (filled_substitute hSeparate.opening_ne closing values _).unique
      (Utf8.encode_ne_nil hSeparate.opening_ne) (filled_render hSeparate values.effective hTidy)
  · have hReplaced : isReplaced values.effective =
        (fun body => (replacement? values.effective body).isSome) ∘ Span.body :=
      funext (isReplaced_eq values.effective)
    rw [count_substitute, hReplaced, ← List.countP_map, hBodies, List.countP_map,
      Draft.countP_isFilled]
    refine List.countP_congr fun key hKey => ?_
    simp [replacement?_encode (Draft.plainKey_of_mem_keys hTidy hKey)]
  · rw [faults_substitute, List.filterMap_eq_nil_iff]
    intro span hSpan
    have hBody : span.body ∈ draft.keys.map Utf8.encode :=
      hBodies ▸ List.mem_map_of_mem (List.mem_reverse.mp hSpan)
    obtain ⟨key, hKey, hSame⟩ := List.mem_map.mp hBody
    refine fault?_eq_none_iff.mpr ⟨key, ?_⟩
    rw [← hSame, key?_encode (Draft.plainKey_of_mem_keys hTidy hKey)]

end Substitution.Tokenized

namespace Substitution.Literal

/-- The bytes of a key between its delimiters. -/
def token (opening closing key : String) : Bytes := (Piece.span key).render opening closing

theorem token_ne_nil (hSeparate : Separate opening closing) (key : String) :
    token opening closing key ≠ [] := by
  simp [token, Piece.render, Utf8.encode_ne_nil hSeparate.opening_ne]

/-- A key that holds no byte of a delimiter does not stand between delimiters already. -/
theorem searchToken_of_clear (hSeparate : Separate opening closing) {key : String}
    (hClear : Clear opening closing (Utf8.encode key)) :
    searchToken opening closing key = opening ++ key ++ closing := by
  have hWrapped : isWrapped opening closing key = false := by
    by_contra hWrapped
    simp only [isWrapped, Bool.not_eq_false, Bool.and_eq_true, List.isPrefixOf_iff_prefix]
      at hWrapped
    obtain ⟨⟨-, rest, hRest⟩, -⟩ := hWrapped
    have hFront : Utf8.encode opening <+: Utf8.encode key := by
      refine ⟨Utf8.encodeChars rest, ?_⟩
      rw [Utf8.encode, Utf8.encode, ← hRest, Utf8.encodeChars, Utf8.encodeChars, Utf8.encodeChars,
        List.flatMap_append]
    obtain ⟨b, bytes, hBytes⟩ :=
      List.exists_cons_of_ne_nil (Utf8.encode_ne_nil hSeparate.opening_ne)
    have hMem : b ∈ Utf8.encode opening := hBytes ▸ List.mem_cons_self
    exact (hClear b (hFront.subset hMem)).1 hMem
  rw [searchToken, hWrapped, if_neg Bool.false_ne_true]

theorem encode_searchToken (hSeparate : Separate opening closing) {key : String}
    (hClear : Clear opening closing (Utf8.encode key)) :
    Utf8.encode (searchToken opening closing key) = token opening closing key := by
  rw [searchToken_of_clear hSeparate hClear, Utf8.encode_append, Utf8.encode_append]
  rfl

theorem conventional_of_plainKey {key : String} (hKey : PlainKey opening closing key)
    (value : String) (table : Table String String) : conventional key value table = value := by
  have hMarker := hKey.noMarker
  simp only [List.forall_mem_cons, List.not_mem_nil, false_implies, implies_true, and_true]
    at hMarker
  obtain ⟨hUpper, hDown, hReplace⟩ := hMarker
  rw [conventional, conventionalCase, carries, carries, carries, hUpper, hDown, hReplace]
  rfl

/-- Of two keys that end where the closing begins, neither runs into the other. -/
theorem eq_of_prefix_closing {closing key other rest : Bytes} (hClosing : closing ≠ [])
    (hKey : ∀ b ∈ key, b ∉ closing) (hOther : ∀ b ∈ other, b ∉ closing)
    (hPrefix : key ++ closing <+: other ++ (closing ++ rest)) : key = other := by
  obtain ⟨after, hAfter⟩ := hPrefix
  have hCut := Span.cut?_body hClosing hKey after
  rw [← List.append_assoc, hAfter, Span.cut?_body hClosing hOther] at hCut
  exact (Prod.mk.inj (Option.some.inj hCut)).1.symm

/-- An opening that begins within another one does not get past a byte that is foreign to it. -/
theorem eq_nil_of_prefix_append {opening front tail rest : Bytes} {b : UInt8} (hByte : b ∉ opening)
    (hFront : front ++ tail = opening) (hPrefix : opening <+: tail ++ b :: rest) : front = [] := by
  by_contra hNe
  have hLength : (tail ++ [b]).length ≤ opening.length := by
    have hPositive := List.length_pos_iff.mpr hNe
    rw [← hFront, List.length_append, List.length_append, List.length_singleton]
    omega
  have hOther : tail ++ [b] <+: tail ++ b :: rest := ⟨rest, by simp⟩
  exact hByte ((List.prefix_of_prefix_length_le hOther hPrefix hLength).subset (by simp))

/-- No token begins among bytes that are foreign to the opening. -/
theorem passes_of_apart (hSeparate : Separate opening closing) (key : String) (front : Bytes)
    (hApart : ∀ b ∈ front, b ∉ Utf8.encode opening) (rest : Bytes) :
    Occurrence.Passes (token opening closing key) front rest := by
  obtain ⟨b, bytes, hBytes⟩ :=
    List.exists_cons_of_ne_nil (Utf8.encode_ne_nil hSeparate.opening_ne)
  rw [token, Piece.render, hBytes, List.cons_append, List.cons_append]
  exact .of_not_mem fun hMem => hApart b hMem (hBytes ▸ List.mem_cons_self)

/-- A token does not occur where a span with another key stands, nor where it would run into one. -/
theorem passes_span (hSeparate : Separate opening closing) {key other : String}
    (hKey : PlainKey opening closing key) (hOther : PlainKey opening closing other)
    (hNe : key ≠ other) (rest : Bytes) :
    Occurrence.Passes (token opening closing key) (token opening closing other) rest := by
  have hClosing := Utf8.encode_ne_nil hSeparate.closing_ne
  have hKeyPart := passes_of_apart hSeparate key (Utf8.encode other)
    (fun b hMem => (hOther.clear b hMem).1) (Utf8.encode closing ++ rest)
  have hClosingPart := passes_of_apart hSeparate key (Utf8.encode closing)
    (fun b hMem hMem' => hSeparate.disjoint b hMem' hMem) rest
  refine Occurrence.Passes.append (Occurrence.Passes.append ?_ hKeyPart) hClosingPart
  rintro tail ⟨front, hFront⟩ - hPrefix
  obtain ⟨b, bytes, hBytes⟩ := List.exists_cons_of_ne_nil (Utf8.encode_ne_nil hOther.ne_empty)
  have hByte : b ∉ Utf8.encode opening := (hOther.clear b (hBytes ▸ List.mem_cons_self)).1
  rw [token, Piece.render, List.append_assoc] at hPrefix
  -- begun further inside, the token would have a byte of the other key in its own opening
  obtain rfl : front = [] := by
    have hBegins :
        Utf8.encode opening <+: tail ++ b :: (bytes ++ (Utf8.encode closing ++ rest)) := by
      rw [← List.cons_append, ← hBytes]
      exact (List.prefix_append _ _).trans hPrefix
    exact eq_nil_of_prefix_append hByte hFront hBegins
  rw [← hFront, List.nil_append, List.prefix_append_right_inj] at hPrefix
  exact hNe (Utf8.encode_injective (eq_of_prefix_closing hClosing
    (fun b hMem => (hKey.clear b hMem).2) (fun b hMem => (hOther.clear b hMem).2) hPrefix))

/-- The value of a single key. -/
def only (key value : String) : String → Option String :=
  fun other => if other = key then some value else none

theorem fill_only_of_ne {key other : String} (hNe : key ≠ other) (value : String) :
    (Piece.span other).fill (only key value) = .span other := by
  simp [Piece.fill, only, Ne.symm hNe]

theorem replaceFrom_render (hSeparate : Separate opening closing) {key : String}
    (hKey : PlainKey opening closing key) (value : String) {draft : Draft}
    (hTidy : draft.Tidy opening closing) :
    Occurrence.replaceFrom (token opening closing key) (Utf8.encode value) 0
        (draft.render opening closing) =
      (draft.fill (only key value)).render opening closing := by
  induction draft with
  | nil => rfl
  | cons piece draft ih =>
      obtain ⟨hPiece, hDraft⟩ := List.forall_mem_cons.mp hTidy
      rw [Draft.render_cons, Draft.fill_cons, Draft.render_cons]
      cases piece with
      | text bytes =>
          have hPasses := passes_of_apart hSeparate key bytes fun b hMem => (hPiece b hMem).1
          exact (Occurrence.replaceFrom_of_passes (hPasses _) _).trans (congrArg _ (ih hDraft))
      | span other =>
          by_cases hSame : key = other
          · subst hSame
            rw [← token, Occurrence.replaceFrom_append (token_ne_nil hSeparate key), ih hDraft]
            simp [Piece.fill, only, Piece.render]
          · rw [fill_only_of_ne hSame]
            exact (Occurrence.replaceFrom_of_passes
              (passes_span hSeparate hKey hPiece hSame _) _).trans (congrArg _ (ih hDraft))

theorem length_offsetsFrom_render (hSeparate : Separate opening closing) {key : String}
    (hKey : PlainKey opening closing key) {draft : Draft} (hTidy : draft.Tidy opening closing)
    (base : Nat) :
    (Occurrence.offsetsFrom (token opening closing key) base 0
        (draft.render opening closing)).length = draft.count (.span key) := by
  induction draft generalizing base with
  | nil => rfl
  | cons piece draft ih =>
      obtain ⟨hPiece, hDraft⟩ := List.forall_mem_cons.mp hTidy
      rw [Draft.render_cons, List.count_cons]
      cases piece with
      | text bytes =>
          have hPasses := passes_of_apart hSeparate key bytes fun b hMem => (hPiece b hMem).1
          exact (congrArg _ (Occurrence.offsetsFrom_of_passes (hPasses _) base)).trans
            (ih hDraft _)
      | span other =>
          by_cases hSame : key = other
          · subst hSame
            rw [← token, Occurrence.offsetsFrom_append (token_ne_nil hSeparate key),
              List.length_cons, ih hDraft, if_pos (beq_self_eq_true _)]
          · rw [← token, Occurrence.offsetsFrom_of_passes
              (passes_span hSeparate hKey hPiece hSame _) base, ih hDraft, if_neg]
            · rfl
            · simpa using Ne.symm hSame

/-- One key puts its value in the places of its spans and leaves the rest. -/
theorem substituteKey_render (hSeparate : Separate opening closing) {key : String}
    (hKey : PlainKey opening closing key) (value : String) (table : Table String String)
    {draft : Draft} (hTidy : draft.Tidy opening closing) (count : Nat)
    (faults : List (Bytes × Fault)) :
    substituteKey opening closing table ⟨draft.render opening closing, count, faults⟩
        (key, value) =
      ⟨(draft.fill (only key value)).render opening closing,
        count + draft.count (.span key), faults⟩ := by
  have hToken := token_ne_nil hSeparate key
  rw [substituteKey]
  simp only [encode_searchToken hSeparate hKey.clear, List.isEmpty_iff, hToken, if_false,
    conventional_of_plainKey hKey, Occurrence.splice_offsets hToken]
  rw [Occurrence.replaceAll, replaceFrom_render hSeparate hKey value hTidy, Occurrence.offsets,
    length_offsetsFrom_render hSeparate hKey hTidy]

/-- The value of the first entry with a key. -/
def first? (entries : List (String × String)) (key : String) : Option String :=
  (entries.find? fun entry => entry.1 = key).map Prod.snd

theorem first?_cons (entry : String × String) (entries : List (String × String)) (key : String) :
    first? (entry :: entries) key = (only entry.1 entry.2 key).or (first? entries key) := by
  by_cases hKey : entry.1 = key
  · simp [first?, only, hKey]
  · simp [first?, only, hKey, Ne.symm hKey]

/-- Where the value of one key was put there is no span for a later one. -/
theorem fill_only (entry : String × String) (entries : List (String × String)) (piece : Piece) :
    (piece.fill (only entry.1 entry.2)).fill (first? entries) =
        piece.fill (first? (entry :: entries)) ∧
      (if piece = .span entry.1 then 1 else 0) +
          (if (piece.fill (only entry.1 entry.2)).isFilled (first? entries) then 1 else 0) =
        if piece.isFilled (first? (entry :: entries)) then 1 else 0 := by
  cases piece with
  | text bytes => exact ⟨rfl, rfl⟩
  | span key =>
      by_cases hKey : key = entry.1
      · simp [Piece.fill, Piece.isFilled, first?_cons, only, hKey]
      · simp [Piece.fill, Piece.isFilled, first?_cons, only, hKey]

theorem fill_fill_only (entry : String × String) (entries : List (String × String))
    (draft : Draft) :
    (draft.fill (only entry.1 entry.2)).fill (first? entries) =
      draft.fill (first? (entry :: entries)) := by
  simp only [Draft.fill, List.map_map]
  exact List.map_congr_left fun piece _ => (fill_only entry entries piece).1

theorem count_add_countP_fill_only (entry : String × String) (entries : List (String × String))
    (draft : Draft) :
    draft.count (.span entry.1) +
        (draft.fill (only entry.1 entry.2)).countP (Piece.isFilled (first? entries)) =
      draft.countP (Piece.isFilled (first? (entry :: entries))) := by
  induction draft with
  | nil => rfl
  | cons piece draft ih =>
      have hPiece := (fill_only entry entries piece).2
      rw [Draft.fill_cons, List.count_cons, List.countP_cons, List.countP_cons]
      simp only [beq_iff_eq]
      omega

/-- The keys one after the other fill the draft as all of them would at once. -/
theorem foldl_render (hSeparate : Separate opening closing) (table : Table String String)
    {entries : List (String × String)}
    (hKeys : ∀ entry ∈ entries, PlainKey opening closing entry.1)
    (hValues : ∀ entry ∈ entries, Clear opening closing (Utf8.encode entry.2)) {draft : Draft}
    (hTidy : draft.Tidy opening closing) (count : Nat) (faults : List (Bytes × Fault)) :
    entries.foldl (substituteKey opening closing table)
        ⟨draft.render opening closing, count, faults⟩ =
      ⟨(draft.fill (first? entries)).render opening closing,
        count + draft.countP (Piece.isFilled (first? entries)), faults⟩ := by
  induction entries generalizing draft count with
  | nil =>
      have hNone : first? [] = fun _ => none := rfl
      rw [hNone, Draft.fill_none, Draft.countP_isFilled, List.countP_eq_zero.mpr (by simp)]
      rfl
  | cons entry entries ih =>
      obtain ⟨hKey, hKeys⟩ := List.forall_mem_cons.mp hKeys
      obtain ⟨hValue, hValues⟩ := List.forall_mem_cons.mp hValues
      have hNext : (draft.fill (only entry.1 entry.2)).Tidy opening closing := by
        refine Draft.tidy_fill hTidy fun key value hSome => ?_
        obtain ⟨-, hSame⟩ := Option.ite_none_right_eq_some.mp hSome
        exact Option.some.inj hSame ▸ hValue
      rw [List.foldl_cons, substituteKey_render hSeparate hKey entry.2 table hTidy,
        ih hKeys hValues hNext, fill_fill_only, Nat.add_assoc, count_add_countP_fill_only]

/-- An entry of the table comes from an assignment. -/
theorem exists_assignment {values : Values} {entry : String × String}
    (hEntry : entry ∈ values.effective.entries) :
    ∃ assignment ∈ values.assignments, assignment.key = entry.1 ∧
      assignment.value = entry.2 := by
  have hValue : values.effective.get? entry.1 = some entry.2 := Table.get?_of_mem_entries hEntry
  rw [Values.get?_effective] at hValue
  obtain ⟨assignment, hFind, hSame⟩ := Option.map_eq_some_iff.mp hValue
  exact ⟨assignment, List.mem_reverse.mp (List.mem_of_find?_eq_some hFind),
    by simpa using List.find?_some hFind, hSame⟩

theorem substitute_render (hSeparate : Separate opening closing)
    (replacements : Table String String) {values : Values}
    (hKeys : ∀ assignment ∈ values.assignments, PlainKey opening closing assignment.key)
    (hValues : ∀ assignment ∈ values.assignments,
      Clear opening closing (Utf8.encode assignment.value)) {draft : Draft}
    (hTidy : draft.Tidy opening closing) :
    substitute opening closing replacements values (draft.render opening closing) =
      ⟨(draft.fill values.effective.get?).render opening closing,
        draft.countP (Piece.isFilled values.effective.get?), []⟩ := by
  have hKeys' : ∀ entry ∈ values.effective.entries, PlainKey opening closing entry.1 := by
    intro entry hEntry
    obtain ⟨assignment, hMem, hKey, -⟩ := exists_assignment hEntry
    exact hKey ▸ hKeys assignment hMem
  have hValues' : ∀ entry ∈ values.effective.entries,
      Clear opening closing (Utf8.encode entry.2) := by
    intro entry hEntry
    obtain ⟨assignment, hMem, -, hValue⟩ := exists_assignment hEntry
    exact hValue ▸ hValues assignment hMem
  have hFold := foldl_render hSeparate (replacements.merge values.replacements) hKeys' hValues'
    hTidy 0 []
  rw [Nat.zero_add] at hFold
  exact hFold

end Substitution.Literal

namespace Survey

open Substitution

/-- A scan of a tidy draft reports its keys. -/
theorem usable_render (hSeparate : Separate opening closing) {draft : Draft}
    (hTidy : draft.Tidy opening closing) :
    usable (keys opening closing (draft.render opening closing)) = draft.keys := by
  have hBody : (fun span : Span => (keyOfBody span.body).toOption) =
      (fun body => (keyOfBody body).toOption) ∘ Span.body := rfl
  rw [usable_keys, hBody, ← List.filterMap_map, Draft.bodies_scan hSeparate hTidy,
    List.filterMap_map]
  refine (List.filterMap_congr fun key hKey => ?_).trans List.filterMap_some
  have hPlain := Draft.plainKey_of_mem_keys hTidy hKey
  rw [Function.comp_apply, Tokenized.keyOfBody_of_key? (Tokenized.key?_encode hPlain)]
  rfl

theorem count_census_render (hSeparate : Separate opening closing) {draft : Draft}
    (hTidy : draft.Tidy opening closing) (key : String) :
    (census opening closing (draft.render opening closing)).count key =
      draft.count (.span key) := by
  rw [census, Census.count_recordAll Census.ascends_empty, usable_render hSeparate hTidy,
    Draft.count_keys]
  exact Nat.zero_add _

end Survey

namespace Substitution

/-- In a tidy draft, with plain keys and clear values, both substitutions put the last value of
each key in the places of its spans and leave everything else alone, and the count of a content
holds each key as often as the draft has spans for it. -/
theorem strategies_agree_on_drafts (opening closing : String) (draft : Draft) (values : Values)
    (replacements : Table String String) (hSeparate : Separate opening closing)
    (hTidy : draft.Tidy opening closing)
    (hKeys : ∀ assignment ∈ values.assignments, PlainKey opening closing assignment.key)
    (hValues : ∀ assignment ∈ values.assignments,
      Clear opening closing (Utf8.encode assignment.value)) :
    let last : String → Option String := fun key =>
      (values.assignments.reverse.find? fun assignment => assignment.key = key).map
        Assignment.value
    let content := draft.render opening closing
    let filled : Substituted :=
      ⟨(draft.fill last).render opening closing, draft.countP (Piece.isFilled last), []⟩
    Tokenized.substitute opening closing values content = filled ∧
    Literal.substitute opening closing replacements values content = filled ∧
    ∀ key, (Survey.census opening closing content).count key = draft.count (.span key) := by
  intro last content filled
  have hLast : values.effective.get? = last := funext (Values.get?_effective values)
  have hTokenized := Tokenized.substitute_render hSeparate values hTidy
  have hLiteral := Literal.substitute_render hSeparate replacements hKeys hValues hTidy
  rw [hLast] at hTokenized hLiteral
  exact ⟨hTokenized, hLiteral, Survey.count_census_render hSeparate hTidy⟩

/-- The opening overlaps itself, spans touch, a key begins with another one, a value is empty, and
one key is assigned twice. -/
theorem strategies_agree_on_touching_spans :
    let draft : Draft := [.span "A", .span "AB", .text (Utf8.encode "\n-é"), .span "A", .span "C"]
    let values : Values := { assignments := [⟨"A", "1"⟩, ⟨"AB", ""⟩, ⟨"A", "x y"⟩] }
    let content := draft.render "[[" "]]"
    let filled : Substituted := ⟨Utf8.encode "x y\n-éx y[[C]]", 3, []⟩
    content = Utf8.encode "[[A]][[AB]]\n-é[[A]][[C]]" ∧
    Tokenized.substitute "[[" "]]" values content = filled ∧
    Literal.substitute "[[" "]]" .empty values content = filled ∧
    (Survey.census "[[" "]]" content).count "A" = 2 := by
  intro draft values content filled
  have hSeparate : Separate "[[" "]]" := ⟨by decide, by decide, by decide +kernel⟩
  have hTidy : draft.Tidy "[[" "]]" := by decide +kernel
  have hKeys : ∀ assignment ∈ values.assignments, PlainKey "[[" "]]" assignment.key := by
    decide +kernel
  have hValues : ∀ assignment ∈ values.assignments,
      Clear "[[" "]]" (Utf8.encode assignment.value) := by decide +kernel
  obtain ⟨hTokenized, hLiteral, hCensus⟩ :=
    strategies_agree_on_drafts "[[" "]]" draft values .empty hSeparate hTidy hKeys hValues
  refine ⟨by decide +kernel, hTokenized.trans ?_, hLiteral.trans ?_, (hCensus "A").trans ?_⟩
  all_goals decide +kernel

end Substitution

end Stencil
