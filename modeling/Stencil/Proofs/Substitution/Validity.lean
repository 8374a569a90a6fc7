import Stencil.Engine
import Stencil.Proofs.Occurrence.Replacing
import Stencil.Proofs.Placeholder
import Stencil.Proofs.Substitution.Settled
import Stencil.Proofs.Text.Boundary

/-! Substitution in a content that is text. Delimiters and search tokens are texts, so they are
found at the boundaries of characters only. The bodies between them are texts as well, none of them
is reported as none, and what a substitution leaves is text again. -/

namespace Stencil

open Text

namespace Span

section Valid

variable {opening closing : String} (hOpening : opening ≠ "") (hClosing : closing ≠ "")

include hOpening hClosing

/-- A span that begins and ends with whole delimiters divides text into texts. -/
theorem isValid_of_here? {front content body after : Bytes}
    (hBytes : Utf8.isValid (front ++ content) = true)
    (hHere : here? (Utf8.encode opening) (Utf8.encode closing) content = some (body, after)) :
    Utf8.isValid front = true ∧ Utf8.isValid body = true ∧ Utf8.isValid after = true := by
  have hText : front ++ content =
      front ++ Utf8.encode opening ++ (body ++ Utf8.encode closing ++ after) := by
    rw [eq_append_of_here? hHere]
    simp only [List.append_assoc]
  rw [hText] at hBytes
  obtain ⟨hFront, hRest⟩ := Utf8.isValid_around hOpening hBytes
  exact ⟨hFront, Utf8.isValid_around hClosing hRest⟩

/-- A search finds texts in a text. What it has passed over need not be text by itself, but is the
beginning of one. -/
theorem isValid_of_mem_searchFrom (front : Bytes) {content : Bytes} {offset : Nat} {span : Span}
    (hBytes : Utf8.isValid (front ++ content) = true)
    (hSpan : span ∈ searchFrom (Utf8.encode opening) (Utf8.encode closing) offset content) :
    Utf8.isValid span.body = true := by
  have hOpen := Utf8.encode_ne_nil hOpening
  induction content using search_induction (Utf8.encode closing) hOpen generalizing front offset with
  | nil =>
      rw [searchFrom_eq_nil_of_no_opening _ (by simp [Occurrence.cut?, hOpen])] at hSpan
      exact absurd hSpan List.not_mem_nil
  | byte b rest hHere ih =>
      rw [searchFrom_of_here?_eq_none _ hHere] at hSpan
      refine ih (front ++ [b]) ?_ hSpan
      rw [List.append_assoc]
      exact hBytes
  | span content body after hHere ih =>
      obtain ⟨-, hBody, hAfter⟩ := isValid_of_here? hOpening hClosing hBytes hHere
      rw [searchFrom_of_here? hOpen _ hHere] at hSpan
      rcases List.mem_cons.mp hSpan with rfl | hLater
      · exact hBody
      · exact ih [] hAfter hLater

/-- A scan finds texts in a text. -/
theorem isValid_of_mem_scanFrom {content : Bytes} {offset : Nat} {span : Span}
    (hBytes : Utf8.isValid content = true)
    (hSpan : span ∈ scanFrom (Utf8.encode opening) (Utf8.encode closing) offset content) :
    Utf8.isValid span.body = true := by
  fun_induction scanFrom (Utf8.encode opening) (Utf8.encode closing) offset content with
  | case1 => exact absurd hSpan List.not_mem_nil
  | case2 => exact absurd hSpan List.not_mem_nil
  | case3 offset content gap rest hOpen body after hClose start stop shorter ih =>
      rw [Occurrence.eq_append_of_cut? hOpen] at hBytes
      have hRest := (Utf8.isValid_around hOpening hBytes).2
      rw [Occurrence.eq_append_of_cut? hClose] at hRest
      obtain ⟨hBody, hAfter⟩ := Utf8.isValid_around hClosing hRest
      rcases List.mem_cons.mp hSpan with rfl | hLater
      · exact hBody
      · exact ih hAfter hLater
  | case4 => exact absurd hSpan List.not_mem_nil

/-- What stands between the delimiters of a text is text. -/
theorem isValid_of_mem_scan {content : Bytes} {span : Span} (hBytes : Utf8.isValid content = true)
    (hSpan : span ∈ scan (Utf8.encode opening) (Utf8.encode closing) content) :
    Utf8.isValid span.body = true := by
  rw [scan] at hSpan
  split at hSpan
  · exact absurd hSpan List.not_mem_nil
  · exact isValid_of_mem_scanFrom hOpening hClosing hBytes hSpan

/-- A text in which spans give way to texts stays a text. -/
theorem Filled.isValid {content filled : Bytes} {value? : Bytes → Option Bytes}
    (hFilled : Filled (Utf8.encode opening) (Utf8.encode closing) value? content filled)
    (hValues : ∀ body value, value? body = some value → Utf8.isValid value = true)
    (front : Bytes) (hBytes : Utf8.isValid (front ++ content) = true) :
    Utf8.isValid (front ++ filled) = true := by
  induction hFilled generalizing front with
  | nil => exact hBytes
  | @byte b rest filled hHere hRest ih =>
      rw [List.append_cons] at hBytes ⊢
      exact ih _ hBytes
  | @left content body after filled hHere hBody hRest ih =>
      rw [eq_append_of_here? hHere, ← List.append_assoc] at hBytes
      rw [← List.append_assoc]
      exact ih _ hBytes
  | @given content body after filled value hHere hBody hRest ih =>
      obtain ⟨hFront, -, hAfter⟩ := isValid_of_here? hOpening hClosing hBytes hHere
      have hFilled : Utf8.isValid filled = true := ih [] hAfter
      exact Utf8.isValid_append hFront (Utf8.isValid_append (hValues body value hBody) hFilled)

end Valid

end Span

namespace Occurrence

/-- A text in which the occurrences of a text give way to a text stays a text. -/
theorem isValid_replaceAll {needle : String} (hNeedle : needle ≠ "") {value hay : Bytes}
    (hValue : Utf8.isValid value = true) (hHay : Utf8.isValid hay = true) :
    Utf8.isValid (replaceAll (Utf8.encode needle) value hay) = true := by
  suffices hFrom : ∀ front : Bytes, Utf8.isValid (front ++ hay) = true →
      Utf8.isValid (front ++ replaceFrom (Utf8.encode needle) value 0 hay) = true from
    hFrom [] hHay
  clear hHay
  induction hay using replacing_induction (Utf8.encode_ne_nil hNeedle) with
  | nil => exact fun front hBytes => hBytes
  | pass a rest hHere ih =>
      intro front hBytes
      rw [replaceFrom_cons hHere, List.append_cons]
      exact ih _ (List.append_cons front a rest ▸ hBytes)
  | hit rest ih =>
      intro front hBytes
      rw [← List.append_assoc] at hBytes
      obtain ⟨hFront, hRest⟩ := Utf8.isValid_around hNeedle hBytes
      rw [replaceFrom_append (Utf8.encode_ne_nil hNeedle)]
      exact Utf8.isValid_append hFront (Utf8.isValid_append hValue (ih [] hRest))

end Occurrence

theorem head?_toList_append {text rest : String} {c : Char} (hText : text.toList.head? = some c) :
    (text ++ rest).toList.head? = some c := by
  rw [String.toList_append, List.head?_append, hText, Option.some_or]

/-- The reason given for a body that is no text is given for nothing else: no other reason begins
with its letter. -/
theorem Fault.message_eq_placeholderNotText_iff {fault : Fault} :
    fault.message = Fault.placeholderNotText.message ↔ fault = .placeholderNotText := by
  constructor
  · intro hMessage
    have hFirst : fault.message.toList.head? = some 'p' := by
      rw [hMessage]
      decide
    have hOther {c : Char} (hHead : fault.message.toList.head? = some c) : c = 'p' :=
      Option.some.inj (hHead.symm.trans hFirst)
    cases fault with
    | placeholderNotText => rfl
    | emptyPlaceholder | malformedValues => exact absurd hFirst (by decide)
    | invalidDelimiters part => cases part <;> exact absurd hFirst (by decide)
    | unsupportedTransformation specifier =>
        have hHead := hOther (c := 'u') (head?_toList_append (by decide))
        exact absurd hHead (by decide)
    | unsupportedFormat extension =>
        have hHead := hOther (c := 'u') (head?_toList_append (by decide))
        exact absurd hHead (by decide)
    | invalidSize text =>
        have hHead := hOther (c := 'i') (head?_toList_append (head?_toList_append (by decide)))
        exact absurd hHead (by decide)
    | invalidSubstitution specifier =>
        have hHead := hOther (c := 'i') (head?_toList_append (head?_toList_append (by decide)))
        exact absurd hHead (by decide)
    | disk path cause =>
        have hHead := hOther (c := 'I')
          (head?_toList_append (head?_toList_append (head?_toList_append (by decide))))
        exact absurd hHead (by decide)
    | halfMaterialized template output cause =>
        have hHead := hOther (c := 't') (head?_toList_append (head?_toList_append
          (head?_toList_append (head?_toList_append (head?_toList_append (by decide))))))
        exact absurd hHead (by decide)
  · rintro rfl
    rfl

theorem Transformation.parse_ne_placeholderNotText (specifier : String) :
    parse specifier ≠ .error .placeholderNotText := by
  intro hParse
  simp only [parse] at hParse
  repeat' split at hParse
  all_goals cases hParse

theorem Placeholder.baseKeyOf_ne_placeholderNotText (body : String) :
    baseKeyOf body ≠ .error .placeholderNotText := by
  intro hKey
  rw [baseKeyOf] at hKey
  repeat' split at hKey
  all_goals cases hKey

/-- Once a body is text, whatever else is wrong with it is said as such. -/
theorem Placeholder.parse_ne_placeholderNotText (body : String) :
    parse body ≠ .error .placeholderNotText := by
  intro hParse
  rw [parse, split] at hParse
  cases hKey : baseKeyOf body with
  | error fault =>
      rw [hKey] at hParse
      cases hParse
      exact baseKeyOf_ne_placeholderNotText body hKey
  | ok key =>
      rw [hKey] at hParse
      cases hSpecifiers : (specifiersOf body).mapM Transformation.parse with
      | error fault =>
          simp only [Except.map, hSpecifiers] at hParse
          cases hParse
          obtain ⟨-, specifier, -, -, -, hFault⟩ := mapM_eq_error_iff.mp hSpecifiers
          exact Transformation.parse_ne_placeholderNotText specifier hFault
      | ok transformations =>
          simp only [Except.map, hSpecifiers] at hParse
          cases hParse

namespace Substitution

/-- A body that is text is never said to be none. -/
theorem Tokenized.placeholder_ne_placeholderNotText {body : Bytes}
    (hBody : Utf8.isValid body = true) : placeholder body ≠ .error .placeholderNotText := by
  obtain ⟨text, hText⟩ := Option.isSome_iff_exists.mp hBody
  rw [placeholder, Utf8.decode?, hText]
  exact Placeholder.parse_ne_placeholderNotText (String.ofList text)

theorem keyOfBody_ne_placeholderNotText {body : Bytes} (hBody : Utf8.isValid body = true) :
    Survey.keyOfBody body ≠ .error .placeholderNotText := by
  obtain ⟨text, hText⟩ := Option.isSome_iff_exists.mp hBody
  rw [Survey.keyOfBody, Utf8.decode?, hText]
  exact Placeholder.baseKeyOf_ne_placeholderNotText (String.ofList text)

theorem Tokenized.isValid_of_replacement? {lookup : Table String String} {body value : Bytes}
    (hValue : replacement? lookup body = some value) : Utf8.isValid value = true := by
  rw [replacement?] at hValue
  split at hValue
  · cases hValue
  · obtain ⟨text, -, rfl⟩ := Option.map_eq_some_iff.mp hValue
    exact Utf8.isValid_encode _

/-- The turn of one key leaves text where there was text. -/
theorem Literal.isValid_substituteKey {opening closing : String} {table : Table String String}
    {done : Substituted} (entry : String × String) (hDone : Utf8.isValid done.content = true) :
    Utf8.isValid (substituteKey opening closing table done entry).content = true := by
  rw [substituteKey]
  split
  · exact hDone
  next hToken =>
  have hNe : searchToken opening closing entry.1 ≠ "" := by
    intro hEmpty
    rw [hEmpty] at hToken
    exact hToken rfl
  dsimp only
  rw [Occurrence.splice_offsets (Utf8.encode_ne_nil hNe)]
  exact Occurrence.isValid_replaceAll hNe (Utf8.isValid_encode _) hDone

/-- All keys in turn leave text, since each does. -/
theorem Literal.isValid_substitute (opening closing : String) (replacements : Table String String)
    (values : Values) {content : Bytes} (hContent : Utf8.isValid content = true) :
    Utf8.isValid (substitute opening closing replacements values content).content = true := by
  rw [substitute]
  exact List.foldlRecOn (motive := fun done : Substituted => Utf8.isValid done.content = true)
    values.effective.entries _ hContent fun done hDone entry _ => isValid_substituteKey entry hDone

section Text

variable {opening closing : String} (hOpening : opening ≠ "") (hClosing : closing ≠ "")
  {content : Bytes} (hContent : Utf8.isValid content = true)

include hOpening hClosing hContent

/-- Values that are put in place of spans leave text. -/
theorem Tokenized.isValid_substitute (values : Values) :
    Utf8.isValid (substitute opening closing values content).content = true :=
  (filled_substitute hOpening closing values content).isValid hOpening hClosing
    (fun _ _ => isValid_of_replacement?) [] hContent

/-- No body in a text is reported as no text. -/
theorem placeholderNotText_not_mem_keys (body : Bytes) :
    (body, .error .placeholderNotText) ∉ Survey.keys opening closing content := by
  intro hMem
  obtain ⟨span, hSpan, hPair⟩ := List.mem_map.mp hMem
  obtain ⟨rfl, hKey⟩ := Prod.mk.inj hPair
  exact keyOfBody_ne_placeholderNotText
    (Span.isValid_of_mem_scan hOpening hClosing hContent hSpan) hKey

/-- In a text no span is reported for a body that is no text. -/
theorem Tokenized.placeholderNotText_not_mem_faults (values : Values) (body : Bytes) :
    (body, .placeholderNotText) ∉ (substitute opening closing values content).faults := by
  rw [faults_substitute, List.mem_filterMap]
  rintro ⟨span, hSpan, hFault⟩
  rw [fault?] at hFault
  split at hFault
  · next fault hBody =>
      cases hFault
      exact placeholder_ne_placeholderNotText (Span.isValid_of_mem_searchFrom
        hOpening hClosing [] hContent (List.mem_reverse.mp hSpan)) hBody
  · cases hFault

end Text

/-- Text stays text, whatever is put in place by either strategy, and no body in it is taken for
anything but text. -/
theorem text_stays_text (opening closing : String) (replacements : Table String String)
    (values : Values) (content : Bytes) (hOpening : opening ≠ "") (hClosing : closing ≠ "")
    (hContent : Utf8.isValid content = true) :
    let tokenized := Tokenized.substitute opening closing values content
    let literal := Literal.substitute opening closing replacements values content
    let found := Survey.keys opening closing content
    Utf8.isValid tokenized.content = true ∧ Utf8.isValid literal.content = true ∧
    (∀ body, (body, .error .placeholderNotText) ∉ found) ∧
    (∀ body, (body, .placeholderNotText) ∉ tokenized.faults) ∧
    ∀ path token,
      .tokenError path token Fault.placeholderNotText.message ∉ Survey.reports path found ∧
      .report (.tokenError path token Fault.placeholderNotText.message) ∉
        Engine.faultReports path tokenized := by
  intro tokenized literal found
  have hFound := placeholderNotText_not_mem_keys hOpening hClosing hContent
  have hFaults := Tokenized.placeholderNotText_not_mem_faults hOpening hClosing hContent values
  refine ⟨Tokenized.isValid_substitute hOpening hClosing hContent values,
    Literal.isValid_substitute opening closing replacements values hContent, hFound, hFaults,
    fun path token => ⟨?_, ?_⟩⟩
  · intro hReport
    obtain ⟨⟨body, key⟩, hMem, hEvent⟩ := List.mem_filterMap.mp hReport
    cases key with
    | ok key => cases hEvent
    | error fault =>
        have hReason := (Event.tokenError.inj (Option.some.inj hEvent)).2.2
        rw [Fault.message_eq_placeholderNotText_iff.mp hReason] at hMem
        exact hFound body hMem
  · intro hReport
    obtain ⟨⟨body, fault⟩, hMem, hNotice⟩ := List.mem_map.mp hReport
    have hReason := (Event.tokenError.inj (Notice.report.inj hNotice)).2.2
    rw [Fault.message_eq_placeholderNotText_iff.mp hReason] at hMem
    exact hFaults body hMem

/-- Characters of the content share bytes with the delimiters, and values hold delimiters. -/
theorem text_stays_text_between_guillemets :
    let content := Utf8.encode "ë«A»¢«ß:toUpperCase»«:»«€»"
    let values : Values := { assignments := [⟨"A", "€«"⟩, ⟨"ß", "ß»"⟩, ⟨"€", "«A»"⟩] }
    let tokenized := Tokenized.substitute "«" "»" values content
    let literal := Literal.substitute "«" "»" .empty values content
    "«" ≠ "" ∧ "»" ≠ "" ∧ Utf8.isValid content = true ∧
    tokenized.content = Utf8.encode "ë€«¢SS»«:»«A»" ∧
    literal.content = Utf8.encode "ë€«¢«ß:toUpperCase»«:»«A»" ∧
    Utf8.isValid tokenized.content = true ∧ Utf8.isValid literal.content = true ∧
    ∀ body, (body, .placeholderNotText) ∉ tokenized.faults := by
  intro content values tokenized literal
  have hContent : Utf8.isValid content = true := by decide +kernel
  obtain ⟨hTokenized, hLiteral, -, hFaults, -⟩ :=
    text_stays_text "«" "»" .empty values content (by decide) (by decide) hContent
  exact ⟨by decide, by decide, hContent, by decide +kernel, by decide +kernel, hTokenized, hLiteral,
    hFaults⟩

end Substitution

end Stencil
