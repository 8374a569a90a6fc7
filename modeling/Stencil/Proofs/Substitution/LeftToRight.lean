import Stencil.Proofs.Span.Leftmost
import Stencil.Proofs.Substitution.Settled

/-! Substitution from the left to the right. Spans are replaced from the last to the first, each at
the offsets that it had in the content as it was. What comes out is the content copied from the
left to the right, with a value in place of each span that is given one. -/

namespace Stencil.Substitution.Tokenized

open Text

/-- Copies a content from an offset on, with values in place of the spans that are given one. -/
def copy (value? : Bytes → Option Bytes) (content : Bytes) : Nat → List Span → Bytes
  | cursor, [] => content.drop cursor
  | cursor, span :: spans =>
      Span.between content cursor span.start ++
        (value? span.body).getD (Span.between content span.start span.stop) ++
          copy value? content span.stop spans

theorem take_append_between (content : Bytes) {start stop : Nat} (hOrder : start ≤ stop) :
    content.take start ++ Span.between content start stop = content.take stop := by
  obtain ⟨size, rfl⟩ := Nat.exists_eq_add_of_le hOrder
  rw [Span.between, Nat.add_sub_cancel_left, List.take_add]

/-- Whatever was done to the spans behind an offset, the bytes in front of it are still in place. -/
theorem content_foldr_of_leftmost {opening closing content : Bytes} (hClosing : closing ≠ [])
    (lookup : Table String String) {cursor : Nat} {spans : List Span}
    (hSpans : Span.Leftmost opening closing content cursor spans) :
    (spans.foldr (substituteSpan lookup) (.unchanged content)).content =
      content.take cursor ++ copy (replacement? lookup) content cursor spans := by
  induction hSpans with
  | done hNone =>
      rw [copy, List.take_append_drop]
      rfl
  | @next cursor start close spans hStart hPaired hLeast hShort hRest ih =>
      have hBehind := hPaired.behind
      have hStop : close + closing.length ≤ content.length :=
        hPaired.closes.le_length hClosing
      have hFront := take_append_between content hStart
      rw [List.foldr_cons, content_substituteSpan, ih, copy, ← List.append_assoc,
        ← List.append_assoc, hFront]
      cases hValue : replacement? lookup
          (Span.between content (start + opening.length) close) with
      | none =>
          have hSpan := take_append_between content
            (show start ≤ close + closing.length by omega)
          dsimp only
          rw [Option.getD_none, hSpan]
      | some value =>
          have hLength : (content.take (close + closing.length)).length = close + closing.length :=
            List.length_take_of_le hStop
          dsimp only
          rw [Option.getD_some, List.take_append_of_le_length (by omega), List.take_take,
            Nat.min_eq_left (by omega), List.drop_left' hLength]

/-- A body is given a value exactly if it is a text that reads as a placeholder, and the key that
this looks up has one. -/
theorem replacement?_eq_some_iff {lookup : Table String String} {body value : Bytes} :
    replacement? lookup body = some value ↔
      ∃ text token given, Utf8.decode? body = some text ∧ Placeholder.parse text = .ok token ∧
        lookup.get? token.baseKey = some given ∧ Utf8.encode (token.resolve given) = value := by
  rw [replacement?, placeholder]
  cases Utf8.decode? body with
  | none => simp
  | some text => cases hToken : Placeholder.parse text <;> simp [hToken]

/-- A body is at fault exactly if it is no text, or a text that does not read as a placeholder. -/
theorem fault?_eq_some_iff {span : Span} {body : Bytes} {fault : Fault} :
    fault? span = some (body, fault) ↔
      span.body = body ∧
        (Utf8.decode? body = none ∧ fault = .placeholderNotText ∨
          ∃ text, Utf8.decode? body = some text ∧ Placeholder.parse text = .error fault) := by
  constructor
  · intro hFault
    rw [fault?, placeholder] at hFault
    cases hText : Utf8.decode? span.body with
    | none =>
        rw [hText] at hFault
        cases hFault
        exact ⟨rfl, .inl ⟨hText, rfl⟩⟩
    | some text =>
        simp only [hText] at hFault
        cases hToken : Placeholder.parse text with
        | error fault' =>
            rw [hToken] at hFault
            cases hFault
            exact ⟨rfl, .inr ⟨text, hText, hToken⟩⟩
        | ok token =>
            rw [hToken] at hFault
            cases hFault
  · rintro ⟨rfl, ⟨hText, rfl⟩ | ⟨text, hText, hToken⟩⟩
    · simp only [fault?, placeholder, hText]
    · simp only [fault?, placeholder, hText, hToken]

/-- Substitution is one copy from the left to the right. The spans of the copy are told by offsets
alone, and there is just one list of them. -/
theorem substitute_left_to_right (opening closing : String) (values : Values) (content : Bytes)
    (hOpening : opening ≠ "") (hClosing : closing ≠ "") :
    let value? := replacement? values.effective
    let result := substitute opening closing values content
    (∀ body value, value? body = some value ↔
      ∃ text token given, Utf8.decode? body = some text ∧ Placeholder.parse text = .ok token ∧
        values.effective.get? token.baseKey = some given ∧
        Utf8.encode (token.resolve given) = value) ∧
    (∀ span body fault, fault? span = some (body, fault) ↔
      span.body = body ∧
        (Utf8.decode? body = none ∧ fault = .placeholderNotText ∨
          ∃ text, Utf8.decode? body = some text ∧ Placeholder.parse text = .error fault)) ∧
    ∃ spans,
      (∀ other, Span.Leftmost (Utf8.encode opening) (Utf8.encode closing) content 0 other ↔
        other = spans) ∧
      result.content = copy value? content 0 spans ∧
      result.count = spans.countP (fun span => (value? span.body).isSome) ∧
      result.faults = (spans.filterMap fault?).reverse := by
  intro value? result
  have hOpen := Utf8.encode_ne_nil hOpening
  have hClose := Utf8.encode_ne_nil hClosing
  refine ⟨fun _ _ => replacement?_eq_some_iff, fun _ _ _ => fault?_eq_some_iff,
    Span.search (Utf8.encode opening) (Utf8.encode closing) content,
    fun _ => Span.leftmost_iff hOpen hClose, ?_, ?_, ?_⟩
  · exact content_foldr_of_leftmost hClose values.effective ((Span.leftmost_iff hOpen hClose).mpr rfl)
  · rw [show result.count = _ from count_substitute opening closing values content]
    exact List.countP_congr fun span _ => by rw [isReplaced_eq]
  · rw [show result.faults = _ from faults_substitute opening closing values content,
      List.filterMap_reverse]

/-- The first opening fails at the end of its line, the second one overlaps itself, a value is longer
than its span, another is transformed twice and is shorter than its span, and one body cannot be
read though its key has a value. -/
theorem substitute_left_to_right_past_line_end :
    let content := Utf8.encode "[[\n[[[A]] [[B:no]][[C:gsub(,-):toUpperCase]]."
    let values : Values := { assignments := [⟨"[A", "1234567"⟩, ⟨"B", "x"⟩, ⟨"C", "a b"⟩] }
    let spans : List Span := [⟨3, Utf8.encode "[A", 9⟩, ⟨10, Utf8.encode "B:no", 18⟩,
      ⟨18, Utf8.encode "C:gsub(,-):toUpperCase", 44⟩]
    let result := substitute "[[" "]]" values content
    "[[" ≠ "" ∧ "]]" ≠ "" ∧
    Span.Leftmost (Utf8.encode "[[") (Utf8.encode "]]") content 0 spans ∧
    result.content = copy (replacement? values.effective) content 0 spans ∧
    result = ⟨Utf8.encode "[[\n1234567 [[B:no]]A-B.", 2,
      [(Utf8.encode "B:no", .unsupportedTransformation "no")]⟩ := by
  intro content values spans result
  obtain ⟨-, -, found, hFound, hContent, -⟩ :=
    substitute_left_to_right "[[" "]]" values content (by decide) (by decide)
  have hSearch : found = Span.search (Utf8.encode "[[") (Utf8.encode "]]") content :=
    (Span.leftmost_iff (by decide) (by decide)).mp ((hFound found).mpr rfl)
  have hSpans : found = spans := hSearch.trans (by decide +kernel)
  rw [← hSpans]
  exact ⟨by decide, by decide, (hFound found).mpr rfl, hContent, by decide +kernel⟩

end Stencil.Substitution.Tokenized
