import Stencil.Proofs.Span.Filling
import Stencil.Proofs.Text.Decoding
import Stencil.Text.Blank

/-! Drafts: texts with spans in known places. A draft is tidy if nothing in it but its spans holds
a byte of a delimiter, so no span can be found in it that was not put there, and each that was
is found. -/

namespace Stencil

open Text

/-- Delimiters that are not empty and share no byte. -/
structure Separate (opening closing : String) : Prop where
  opening_ne : opening ≠ ""
  closing_ne : closing ≠ ""
  disjoint : ∀ b ∈ Utf8.encode opening, b ∉ Utf8.encode closing

/-- Bytes of which none belongs to a delimiter. -/
def Clear (opening closing : String) (bytes : Bytes) : Prop :=
  ∀ b ∈ bytes, b ∉ Utf8.encode opening ∧ b ∉ Utf8.encode closing

instance (opening closing : String) (bytes : Bytes) : Decidable (Clear opening closing bytes) :=
  inferInstanceAs (Decidable (∀ b ∈ bytes, _))

/-- A key that can stand between delimiters and says nothing but its name. -/
structure PlainKey (opening closing key : String) : Prop where
  clear : Clear opening closing (Utf8.encode key)
  notBlank : isBlankText key = false
  noColon : ':' ∉ key.toList
  noNewline : '\n' ∉ key.toList
  noMarker : ∀ marker ∈ ["APPLY_UPPERCASE", "APPLY_DOWNCASE", "APPLY_REPLACE"],
    Occurrence.occursIn marker.toList key.toList = false

theorem plainKey_iff {opening closing key : String} :
    PlainKey opening closing key ↔
      Clear opening closing (Utf8.encode key) ∧ isBlankText key = false ∧ ':' ∉ key.toList ∧
        '\n' ∉ key.toList ∧
          ∀ marker ∈ ["APPLY_UPPERCASE", "APPLY_DOWNCASE", "APPLY_REPLACE"],
            Occurrence.occursIn marker.toList key.toList = false :=
  ⟨fun hKey => ⟨hKey.clear, hKey.notBlank, hKey.noColon, hKey.noNewline, hKey.noMarker⟩,
    fun ⟨hClear, hBlank, hColon, hNewline, hMarker⟩ =>
      ⟨hClear, hBlank, hColon, hNewline, hMarker⟩⟩

instance (opening closing key : String) : Decidable (PlainKey opening closing key) :=
  decidable_of_iff' _ plainKey_iff

/-- A piece of a draft: bytes that stay, or a span with its key. -/
inductive Piece
  | text (bytes : Bytes)
  | span (key : String)
  deriving DecidableEq

namespace Piece

/-- What a piece looks like in a file. -/
def render (opening closing : String) : Piece → Bytes
  | text bytes => bytes
  | span key => Utf8.encode opening ++ Utf8.encode key ++ Utf8.encode closing

/-- Puts a value in the place of a span whose key has one. -/
def fill (value? : String → Option String) : Piece → Piece
  | text bytes => text bytes
  | span key =>
      match value? key with
      | some value => text (Utf8.encode value)
      | none => span key

/-- Whether a piece is a span whose key has a value. -/
def isFilled (value? : String → Option String) : Piece → Bool
  | text _ => false
  | span key => (value? key).isSome

def Tidy (opening closing : String) : Piece → Prop
  | text bytes => Clear opening closing bytes
  | span key => PlainKey opening closing key

instance (opening closing : String) : (piece : Piece) → Decidable (piece.Tidy opening closing)
  | text bytes => inferInstanceAs (Decidable (Clear opening closing bytes))
  | span key => inferInstanceAs (Decidable (PlainKey opening closing key))

end Piece

/-- A text with spans, piece by piece. -/
abbrev Draft := List Piece

namespace Draft

/-- What a draft looks like in a file: its pieces one after the other. -/
def render (opening closing : String) (draft : Draft) : Bytes :=
  draft.flatMap (Piece.render opening closing)

/-- A draft with values for the spans that have one. -/
def fill (value? : String → Option String) (draft : Draft) : Draft :=
  draft.map (Piece.fill value?)

/-- All pieces of a draft are tidy. -/
def Tidy (opening closing : String) (draft : Draft) : Prop :=
  ∀ piece ∈ draft, piece.Tidy opening closing

instance (opening closing : String) (draft : Draft) : Decidable (draft.Tidy opening closing) :=
  inferInstanceAs (Decidable (∀ piece ∈ draft, piece.Tidy opening closing))

/-- The keys of the spans, in order. -/
def keys (draft : Draft) : List String :=
  draft.filterMap fun piece =>
    match piece with
    | .text _ => none
    | .span key => some key

theorem render_cons (opening closing : String) (piece : Piece) (draft : Draft) :
    render opening closing (piece :: draft) =
      piece.render opening closing ++ draft.render opening closing :=
  List.flatMap_cons

theorem fill_cons (value? : String → Option String) (piece : Piece) (draft : Draft) :
    fill value? (piece :: draft) = piece.fill value? :: fill value? draft :=
  List.map_cons

/-- Without values a draft stays as it is. -/
theorem fill_none (draft : Draft) : draft.fill (fun _ => none) = draft := by
  have hPiece (piece : Piece) : piece.fill (fun _ => none) = piece := by cases piece <;> rfl
  exact (List.map_congr_left fun piece _ => hPiece piece).trans (List.map_id draft)

/-- Only the values of keys that a draft has matter to it. -/
theorem fill_congr {value? value?' : String → Option String} {draft : Draft}
    (hSame : ∀ key ∈ draft.keys, value? key = value?' key) :
    draft.fill value? = draft.fill value?' := by
  refine List.map_congr_left fun piece hMem => ?_
  cases piece with
  | text bytes => rfl
  | span key =>
      have hKey : key ∈ draft.keys := List.mem_filterMap.mpr ⟨_, hMem, rfl⟩
      rw [Piece.fill, Piece.fill, hSame key hKey]

theorem keys_text (bytes : Bytes) (draft : Draft) : keys (.text bytes :: draft) = keys draft := rfl

theorem keys_span (key : String) (draft : Draft) :
    keys (.span key :: draft) = key :: keys draft := rfl

/-- A key comes as often as its span does. -/
theorem count_keys (draft : Draft) (key : String) :
    draft.keys.count key = draft.count (.span key) := by
  induction draft with
  | nil => rfl
  | cons piece draft ih =>
      cases piece with
      | text bytes => simpa [keys_text, List.count_cons] using ih
      | span other => simp [keys_span, List.count_cons, ih]

/-- As many pieces are filled as there are spans of keys with a value. -/
theorem countP_isFilled (value? : String → Option String) (draft : Draft) :
    draft.countP (Piece.isFilled value?) = draft.keys.countP fun key => (value? key).isSome := by
  induction draft with
  | nil => rfl
  | cons piece draft ih =>
      cases piece with
      | text bytes => simpa [keys_text, Piece.isFilled] using ih
      | span key =>
          rw [keys_span, List.countP_cons, List.countP_cons, ih]
          rfl

end Draft

namespace Span

variable {opening closing : Bytes}

/-- Bytes that a delimiter has none of hold no start of it. -/
theorem passes_of_apart {delimiter front : Bytes} (hDelimiter : delimiter ≠ [])
    (hApart : ∀ b ∈ front, b ∉ delimiter) (rest : Bytes) :
    Occurrence.Passes delimiter front rest := by
  obtain ⟨b, delimiter, rfl⟩ := List.exists_cons_of_ne_nil hDelimiter
  exact Occurrence.Passes.of_not_mem fun hMem => hApart b hMem List.mem_cons_self

/-- A scan goes on behind a stretch in which no opening begins. -/
theorem scanFrom_of_passes (hOpening : opening ≠ []) (offset : Nat) {front rest : Bytes}
    (hPasses : Occurrence.Passes opening front rest) :
    scanFrom opening closing offset (front ++ rest) =
      scanFrom opening closing (offset + front.length) rest := by
  have hFront := Occurrence.cut?_of_passes hPasses
  cases hOpen : Occurrence.cut? opening rest with
  | none =>
      rw [hOpen] at hFront
      rw [scanFrom.eq_def, hFront, scanFrom.eq_def, hOpen]
      rfl
  | some found =>
      obtain ⟨gap, rest'⟩ := found
      rw [hOpen] at hFront
      cases hClose : Occurrence.cut? closing rest' with
      | none =>
          rw [scanFrom.eq_def, hFront, scanFrom.eq_def, hOpen]
          simp only [Option.map_some, hClose]
      | some found =>
          rw [scanFrom_of_cut? hOpening offset hFront hClose,
            scanFrom_of_cut? hOpening _ hOpen hClose, List.length_append, ← Nat.add_assoc offset]

/-- A body without bytes of the closing delimiter is cut off at the delimiter behind it. -/
theorem cut?_body (hClosing : closing ≠ []) {body : Bytes} (hBody : ∀ b ∈ body, b ∉ closing)
    (rest : Bytes) :
    Occurrence.cut? closing (body ++ (closing ++ rest)) = some (body, rest) := by
  rw [Occurrence.cut?_of_passes (passes_of_apart hClosing hBody _), Occurrence.cut?_append]
  simp only [Option.map_some, List.append_nil]

/-- A span on one line is found where it begins, with all of its body. -/
theorem here?_span (opening : Bytes) (hClosing : closing ≠ []) {body : Bytes}
    (hBody : ∀ b ∈ body, b ∉ closing) (hLine : newline ∉ body) (rest : Bytes) :
    here? opening closing (opening ++ body ++ closing ++ rest) = some (body, rest) := by
  rw [List.append_assoc, List.append_assoc, here?_append, closeOnLine?_eq_filter,
    cut?_body hClosing hBody]
  simp [Option.filter, hLine]

end Span

section Tidy

variable {opening closing : String}

theorem PlainKey.newline_not_mem {key : String} (hKey : PlainKey opening closing key) :
    Span.newline ∉ Utf8.encode key :=
  fun hMem => hKey.noNewline (Utf8.mem_toList_of_ascii hMem (by decide))

theorem PlainKey.ne_empty {key : String} (hKey : PlainKey opening closing key) : key ≠ "" := by
  rintro rfl
  exact Bool.noConfusion hKey.notBlank

namespace Draft

/-- A tidy draft has plain keys only. -/
theorem plainKey_of_mem_keys {draft : Draft} (hTidy : draft.Tidy opening closing) {key : String}
    (hKey : key ∈ draft.keys) : PlainKey opening closing key := by
  obtain ⟨piece, hMem, hPiece⟩ := List.mem_filterMap.mp hKey
  cases piece with
  | text bytes => cases hPiece
  | span other =>
      cases hPiece
      exact hTidy _ hMem

/-- What is filled with clear values is tidy again. -/
theorem tidy_fill {value? : String → Option String} {draft : Draft}
    (hTidy : draft.Tidy opening closing)
    (hValues : ∀ key value, value? key = some value → Clear opening closing (Utf8.encode value)) :
    (draft.fill value?).Tidy opening closing := by
  rintro _ hMem
  obtain ⟨piece, hPiece, rfl⟩ := List.mem_map.mp hMem
  cases piece with
  | text bytes => exact hTidy _ hPiece
  | span key =>
      rw [Piece.fill]
      cases hValue : value? key with
      | some value => exact hValues key value hValue
      | none => exact hTidy _ hPiece

/-- A scan of a tidy draft finds the spans that are in it. -/
theorem bodies_scanFrom (hSeparate : Separate opening closing) {draft : Draft}
    (hTidy : draft.Tidy opening closing) (offset : Nat) :
    (Span.scanFrom (Utf8.encode opening) (Utf8.encode closing) offset
        (draft.render opening closing)).map Span.body = draft.keys.map Utf8.encode := by
  have hOpening := Utf8.encode_ne_nil hSeparate.opening_ne
  have hClosing := Utf8.encode_ne_nil hSeparate.closing_ne
  induction draft generalizing offset with
  | nil =>
      have hNone : Occurrence.cut? (Utf8.encode opening) [] = none := by
        simp [Occurrence.cut?, hOpening]
      rw [Span.scanFrom.eq_def]
      simp [render, keys, hNone]
  | cons piece draft ih =>
      obtain ⟨hPiece, hDraft⟩ := List.forall_mem_cons.mp hTidy
      rw [render_cons]
      cases piece with
      | text bytes =>
          have hApart : ∀ b ∈ bytes, b ∉ Utf8.encode opening := fun b hMem => (hPiece b hMem).1
          exact (congrArg _ (Span.scanFrom_of_passes hOpening offset
            (Span.passes_of_apart hOpening hApart _))).trans (ih hDraft _)
      | span key =>
          have hKey : ∀ b ∈ Utf8.encode key, b ∉ Utf8.encode closing :=
            fun b hMem => (hPiece.clear b hMem).2
          have hClose := Span.cut?_body hClosing hKey (render opening closing draft)
          have hOpen := Occurrence.cut?_append (Utf8.encode opening)
            (Utf8.encode key ++ (Utf8.encode closing ++ render opening closing draft))
          have hSpan := Span.scanFrom_of_cut? hOpening offset hOpen hClose
          rw [← List.append_assoc, ← List.append_assoc] at hSpan
          exact (congrArg _ hSpan).trans (congrArg _ (ih hDraft _))

/-- A scan of a tidy draft gives the keys of its spans and finds nothing in the text between. -/
theorem bodies_scan (hSeparate : Separate opening closing) {draft : Draft}
    (hTidy : draft.Tidy opening closing) :
    (Span.scan (Utf8.encode opening) (Utf8.encode closing)
        (draft.render opening closing)).map Span.body = draft.keys.map Utf8.encode := by
  have hOpening := Utf8.encode_ne_nil hSeparate.opening_ne
  have hClosing := Utf8.encode_ne_nil hSeparate.closing_ne
  rw [Span.scan, if_neg (by simp [hOpening, hClosing])]
  exact bodies_scanFrom hSeparate hTidy 0

/-- A search finds the same spans, as no key runs over the end of a line. -/
theorem bodies_search (hSeparate : Separate opening closing) {draft : Draft}
    (hTidy : draft.Tidy opening closing) :
    (Span.search (Utf8.encode opening) (Utf8.encode closing)
        (draft.render opening closing)).map Span.body = draft.keys.map Utf8.encode := by
  have hScan := bodies_scan hSeparate hTidy
  rw [Span.search_eq_scan (Utf8.encode_ne_nil hSeparate.opening_ne)
    (Utf8.encode_ne_nil hSeparate.closing_ne), hScan]
  intro span hSpan
  have hBody : span.body ∈ draft.keys.map Utf8.encode := hScan ▸ List.mem_map_of_mem hSpan
  obtain ⟨key, hKey, hSame⟩ := List.mem_map.mp hBody
  rw [← hSame]
  exact (plainKey_of_mem_keys hTidy hKey).newline_not_mem

end Draft

end Tidy

end Stencil
