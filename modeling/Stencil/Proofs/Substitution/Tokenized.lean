import Mathlib.Data.List.Basic
import Stencil.Substitution.Tokenized
import Stencil.Survey

/-! What becomes of a single span when values are put in place of placeholders. A span is
replaced exactly when its body can be read and the key it names has a value, so the count,
the faults and the new content only depend on what is looked up for these keys. -/

namespace Stencil.Substitution.Tokenized

/-- The key that a body looks up, if the body can be read. -/
def key? (body : Bytes) : Option String := (placeholder body).toOption.map Placeholder.baseKey

/-- Whether a span is replaced. -/
def isReplaced (lookup : Table String String) (span : Span) : Bool :=
  (key? span.body).any fun key => (lookup.get? key).isSome

/-- The fault of a body that cannot be read. -/
def fault? (span : Span) : Option (Bytes × Fault) :=
  match placeholder span.body with
  | .error fault => some (span.body, fault)
  | .ok _ => none

/-- A span counts if its key has a value. -/
theorem count_substituteSpan (lookup : Table String String) (span : Span) (done : Substituted) :
    (substituteSpan lookup span done).count =
      done.count + if isReplaced lookup span then 1 else 0 := by
  unfold substituteSpan isReplaced key?
  cases placeholder span.body with
  | error fault => rfl
  | ok placeholder =>
      cases hValue : lookup.get? placeholder.baseKey <;> simp [Except.toOption, hValue]

theorem faults_substituteSpan (lookup : Table String String) (span : Span)
    (done : Substituted) :
    (substituteSpan lookup span done).faults = done.faults ++ (fault? span).toList := by
  unfold substituteSpan fault?
  cases placeholder span.body with
  | error fault => rfl
  | ok placeholder => cases hValue : lookup.get? placeholder.baseKey <;> simp [hValue]

theorem count_foldr (lookup : Table String String) (spans : List Span) (done : Substituted) :
    (spans.foldr (substituteSpan lookup) done).count =
      done.count + spans.countP (isReplaced lookup) := by
  induction spans with
  | nil => rfl
  | cons span spans ih =>
      rw [List.foldr_cons, count_substituteSpan, ih, List.countP_cons, Nat.add_assoc]

/-- Faults are met from the last span to the first. -/
theorem faults_foldr (lookup : Table String String) (spans : List Span) (done : Substituted) :
    (spans.foldr (substituteSpan lookup) done).faults =
      done.faults ++ spans.reverse.filterMap fault? := by
  induction spans with
  | nil => simp
  | cons span spans ih =>
      rw [List.foldr_cons, faults_substituteSpan, ih, List.reverse_cons, List.filterMap_append,
        List.append_assoc]
      cases hFault : fault? span <;> simp [hFault]

/-- A substitution counts the spans that are replaced. -/
theorem count_substitute (opening closing : String) (values : Values) (content : Bytes) :
    (substitute opening closing values content).count =
      (Span.search (Text.Utf8.encode opening) (Text.Utf8.encode closing) content).countP
        (isReplaced values.effective) := by
  rw [substitute, count_foldr]
  exact Nat.zero_add _

/-- The faults are those of the spans, the last span first. -/
theorem faults_substitute (opening closing : String) (values : Values) (content : Bytes) :
    (substitute opening closing values content).faults =
      (Span.search (Text.Utf8.encode opening) (Text.Utf8.encode closing)
        content).reverse.filterMap fault? := by
  rw [substitute, faults_foldr]
  rfl

/-- The bytes that take the place of a span with this body. -/
def replacement? (lookup : Table String String) (body : Bytes) : Option Bytes :=
  match placeholder body with
  | .error _ => none
  | .ok placeholder =>
      (lookup.get? placeholder.baseKey).map fun value =>
        Text.Utf8.encode (placeholder.resolve value)

theorem isReplaced_eq (lookup : Table String String) (span : Span) :
    isReplaced lookup span = (replacement? lookup span.body).isSome := by
  unfold isReplaced key? replacement?
  cases placeholder span.body with
  | error fault => rfl
  | ok placeholder => simp [Except.toOption]

theorem content_substituteSpan (lookup : Table String String) (span : Span)
    (done : Substituted) :
    (substituteSpan lookup span done).content =
      match replacement? lookup span.body with
      | none => done.content
      | some value => done.content.take span.start ++ value ++ done.content.drop span.stop := by
  unfold substituteSpan replacement?
  cases placeholder span.body with
  | error fault => rfl
  | ok placeholder => cases hValue : lookup.get? placeholder.baseKey <;> simp [hValue]

/-- A content in which nothing is replaced is left as it is. -/
theorem content_of_count_eq_zero {opening closing : String} {values : Values} {content : Bytes}
    (hCount : (substitute opening closing values content).count = 0) :
    (substitute opening closing values content).content = content := by
  rw [count_substitute, List.countP_eq_zero] at hCount
  rw [substitute]
  generalize Span.search (Text.Utf8.encode opening) (Text.Utf8.encode closing) content = spans
    at hCount
  induction spans with
  | nil => rfl
  | cons span spans ih =>
      have hSpan := hCount span List.mem_cons_self
      rw [isReplaced_eq, Option.not_isSome_iff_eq_none] at hSpan
      rw [List.foldr_cons, content_substituteSpan, hSpan,
        ih fun other hMem => hCount other (List.mem_cons_of_mem _ hMem)]

/-- A span depends on the value of its own key only. -/
theorem substituteSpan_congr {lookup lookup' : Table String String} {span : Span}
    (hLookup : ∀ key, key? span.body = some key → lookup.get? key = lookup'.get? key)
    (done : Substituted) :
    substituteSpan lookup span done = substituteSpan lookup' span done := by
  unfold substituteSpan
  cases hBody : placeholder span.body with
  | error fault => rfl
  | ok placeholder =>
      have hKey : key? span.body = some placeholder.baseKey := by
        rw [key?, hBody]
        rfl
      simp only [hLookup placeholder.baseKey hKey]

/-- Only what is looked up for the keys of the spans matters. -/
theorem substitute_congr {opening closing : String} {values values' : Values} {content : Bytes}
    (hLookup : ∀ span ∈ Span.search (Text.Utf8.encode opening) (Text.Utf8.encode closing) content,
      ∀ key, key? span.body = some key →
        values.effective.get? key = values'.effective.get? key) :
    substitute opening closing values content = substitute opening closing values' content := by
  rw [substitute, substitute]
  generalize Span.search (Text.Utf8.encode opening) (Text.Utf8.encode closing) content = spans
    at hLookup
  induction spans with
  | nil => rfl
  | cons span spans ih =>
      rw [List.foldr_cons, List.foldr_cons, substituteSpan_congr (hLookup span List.mem_cons_self),
        ih fun other hMem => hLookup other (List.mem_cons_of_mem _ hMem)]

theorem isReplaced_of_key? {lookup : Table String String} {span : Span} {key : String}
    (hKey : key? span.body = some key) :
    isReplaced lookup span = (lookup.get? key).isSome := by
  rw [isReplaced, hKey, Option.any_some]

theorem isReplaced_mono {lookup lookup' : Table String String}
    (hLess : ∀ key value, lookup.get? key = some value → lookup'.get? key = some value)
    {span : Span} (hSpan : isReplaced lookup span = true) : isReplaced lookup' span = true := by
  obtain ⟨key, hKey, hValue⟩ := (Option.any_eq_true _ _).mp hSpan
  obtain ⟨value, hValue⟩ := Option.isSome_iff_exists.mp hValue
  rw [isReplaced_of_key? hKey, hLess key value hValue]
  rfl

/-- Of two tables, one of which gives less, both replace as many spans only if they give the same
for all keys that are looked up. -/
theorem get?_eq_of_countP_eq {lookup lookup' : Table String String} {spans : List Span}
    (hLess : ∀ key value, lookup.get? key = some value → lookup'.get? key = some value)
    (hCount : spans.countP (isReplaced lookup) = spans.countP (isReplaced lookup'))
    {span : Span} {key : String} (hSpan : span ∈ spans) (hKey : key? span.body = some key) :
    lookup.get? key = lookup'.get? key := by
  rw [List.countP_eq_length_filter, List.countP_eq_length_filter] at hCount
  have hSame : spans.filter (isReplaced lookup) = spans.filter (isReplaced lookup') :=
    (List.monotone_filter_right _ fun _ => isReplaced_mono hLess).eq_of_length hCount
  cases hValue : lookup.get? key with
  | some value => exact (hLess key value hValue).symm
  | none =>
      cases hValue' : lookup'.get? key with
      | none => rfl
      | some value' =>
          have hLarge : span ∈ spans.filter (isReplaced lookup') := by
            rw [List.mem_filter, isReplaced_of_key? hKey, hValue']
            exact ⟨hSpan, rfl⟩
          rw [← hSame, List.mem_filter, isReplaced_of_key? hKey, hValue] at hLarge
          cases hLarge.2

theorem fault?_eq_none_iff {span : Span} :
    fault? span = none ↔ ∃ key, key? span.body = some key := by
  unfold fault? key?
  cases placeholder span.body <;> simp [Except.toOption]

/-- A body that can be read is counted under the key that it looks up. -/
theorem keyOfBody_of_key? {body : Bytes} {key : String} (hKey : key? body = some key) :
    Survey.keyOfBody body = .ok key := by
  unfold key? placeholder at hKey
  unfold Survey.keyOfBody
  cases hText : Text.Utf8.decode? body with
  | none => simp [hText, Except.toOption] at hKey
  | some text =>
      simp only [hText, Placeholder.parse, Placeholder.split] at hKey ⊢
      cases hBase : Placeholder.baseKeyOf text with
      | error fault => simp [hBase, Except.map, Except.toOption] at hKey
      | ok base =>
          simp only [hBase, Except.map] at hKey
          cases hSpecifiers : (Placeholder.specifiersOf text).mapM Transformation.parse with
          | error fault => simp [hSpecifiers, Except.toOption] at hKey
          | ok transformations =>
              simp only [hSpecifiers, Except.toOption, Option.map_some, Option.some.injEq] at hKey
              rw [hKey]

end Stencil.Substitution.Tokenized
