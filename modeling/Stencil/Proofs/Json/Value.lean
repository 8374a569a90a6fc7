import Mathlib.Data.List.Forall2
import Stencil.Proofs.Json.Quoted
import Stencil.Json.Value

/-! Texts that are read as a value, wherever they stand: first cut into tokens, then built up. Texts
of arrays and objects are put together from those of what they hold. -/

namespace Stencil.Json

namespace Token

/-- A text is cut into these tokens, whatever follows it. -/
def Scans (text : List Char) (tokens : List Token) : Prop :=
  ∀ rest, scan (text ++ rest) = (scan rest).map (tokens ++ ·)

theorem scan_nil : scan [] = some [] := by rw [scan]

/-- A token at hand is cut off. -/
theorem scan_of_next? {c : Char} {text rest : List Char} {token : Token}
    (hBlank : isBlank c = false) (hNext : next? (c :: text) = some (token, rest))
    (hShorter : rest.length ≤ text.length) : scan (c :: text) = (scan rest).map (token :: ·) := by
  rw [scan, if_neg (by simp [hBlank]), hNext]
  simp [Nat.lt_succ_of_le hShorter]

namespace Scans

theorem nil : Scans [] [] := fun rest => by simp

theorem append {text text' : List Char} {tokens tokens' : List Token}
    (hText : Scans text tokens) (hText' : Scans text' tokens') :
    Scans (text ++ text') (tokens ++ tokens') := by
  intro rest
  rw [List.append_assoc, hText, hText', Option.map_map]
  simp [Function.comp_def]

/-- A mark that is a token of its own. -/
theorem mark {c : Char} {token : Token} (hBlank : isBlank c = false)
    (hNext : ∀ rest, next? (c :: rest) = some (token, rest)) : Scans [c] [token] :=
  fun rest => scan_of_next? hBlank (hNext rest) le_rfl

theorem quote (text : List Char) :
    Scans (quote text) [.scalar (.text (some (String.ofList text)))] := by
  intro rest
  have hText : Json.quote text ++ rest = '"' :: (text.flatMap writeChar ++ '"' :: rest) := by
    simp [Json.quote]
  rw [hText]
  refine scan_of_next? rfl ?_ (by simp; omega)
  rw [next?, unquote_written]
  rfl

end Scans

end Token

/-- Separators stand in front of all parts but the first. -/
theorem intercalate_cons {α : Type} (separator : α) (part : List α) (parts : List (List α)) :
    [separator].intercalate (part :: parts) = part ++ parts.flatMap (separator :: ·) := by
  induction parts generalizing part with
  | nil => simp
  | cons other parts ih => simp [ih]

/-- What is related through something in between is related to a list of such things, in pairs. -/
theorem exists_forall₂_between {α β γ : Type} {R : α → β → Prop} {S : β → γ → Prop} {xs : List α}
    {zs : List γ} (hPairs : List.Forall₂ (fun x z => ∃ y, R x y ∧ S y z) xs zs) :
    ∃ ys, List.Forall₂ R xs ys ∧ List.Forall₂ S ys zs := by
  induction hPairs with
  | nil => exact ⟨[], .nil, .nil⟩
  | cons hHere _ ih =>
      obtain ⟨y, hLeft, hRight⟩ := hHere
      obtain ⟨ys, hLefts, hRights⟩ := ih
      exact ⟨y :: ys, .cons hLeft hLefts, .cons hRight hRights⟩

/-- Texts with commas between them. -/
theorem Token.Scans.commaSeparated {texts : List (List Char)} {parts : List (List Token)}
    (hTexts : List.Forall₂ Scans texts parts) :
    Scans ([','].intercalate texts) ([Token.comma].intercalate parts) := by
  cases hTexts with
  | nil => exact .nil
  | cons hFirst hMore =>
      rw [intercalate_cons, intercalate_cons]
      apply hFirst.append
      induction hMore with
      | nil => exact .nil
      | cons hHere _ ih => exact ((mark rfl fun _ => rfl).append hHere).append ih

open Token (Scans)

/-- Tokens that build a value wherever one may stand. -/
def Builds (tokens : List Token) (value : Value) : Prop :=
  ∀ frames expected, expected = .value ∨ expected = .valueOrEnd →
    tokens.foldlM step (frames, expected) = some (frames, .complete value)

namespace Builds

theorem scalar (value : Value) : Builds [.scalar value] value := by
  rintro frames _ (rfl | rfl) <;> rfl

/-- The items after one that is complete. -/
theorem moreItems {parts : List (List Token)} {values : List Value}
    (hParts : List.Forall₂ Builds parts values) (frames : List Frame) (items : List Value)
    (value : Value) :
    (parts.flatMap (Token.comma :: ·) ++ [Token.closeArray]).foldlM step
        (.array items :: frames, .complete value) =
      some (frames, .complete (.array (items ++ value :: values))) := by
  induction hParts generalizing items value with
  | nil => rfl
  | @cons part value' parts values hPart _ ih =>
      rw [List.flatMap_cons, List.append_assoc, List.cons_append, List.foldlM_cons]
      show (part ++ _).foldlM step (.array (items ++ [value]) :: frames, .value) = _
      rw [List.foldlM_append, hPart _ _ (.inl rfl)]
      simpa using ih (items ++ [value]) value'

theorem array {parts : List (List Token)} {values : List Value}
    (hParts : List.Forall₂ Builds parts values) :
    Builds (.openArray :: [Token.comma].intercalate parts ++ [.closeArray]) (.array values) := by
  intro frames expected hExpected
  have hOpen : step (frames, expected) .openArray = some (.array [] :: frames, .valueOrEnd) := by
    rcases hExpected with rfl | rfl <;> rfl
  rw [List.cons_append, List.foldlM_cons, hOpen]
  cases hParts with
  | nil => rfl
  | @cons part value parts values hPart hMore =>
      rw [intercalate_cons, List.append_assoc]
      show (part ++ _).foldlM step (.array [] :: frames, .valueOrEnd) = _
      rw [List.foldlM_append, hPart _ _ (.inr rfl)]
      exact moreItems hMore frames [] value

/-- Tokens of a field: its key, a colon, and its value. -/
def Field (tokens : List Token) (field : Option String × Value) : Prop :=
  ∃ inner, tokens = .scalar (.text field.1) :: .colon :: inner ∧ Builds inner field.2

theorem moreFields {parts : List (List Token)} {fields : List (Option String × Value)}
    (hParts : List.Forall₂ Field parts fields) (frames : List Frame)
    (before : List (Option String × Value)) (field : Option String × Value) :
    (parts.flatMap (Token.comma :: ·) ++ [Token.closeObject]).foldlM step
        (.field before field.1 :: frames, .complete field.2) =
      some (frames, .complete (.object (before ++ field :: fields))) := by
  induction hParts generalizing before field with
  | nil => rfl
  | @cons part field' parts fields hPart _ ih =>
      obtain ⟨inner, rfl, hInner⟩ := hPart
      rw [List.flatMap_cons, List.append_assoc, List.cons_append, List.foldlM_cons]
      show (inner ++ _).foldlM step (.field (before ++ [field]) field'.1 :: frames, .value) = _
      rw [List.foldlM_append, hInner _ _ (.inl rfl)]
      simpa using ih (before ++ [field]) field'

theorem object {parts : List (List Token)} {fields : List (Option String × Value)}
    (hParts : List.Forall₂ Field parts fields) :
    Builds (.openObject :: [Token.comma].intercalate parts ++ [.closeObject])
      (.object fields) := by
  intro frames expected hExpected
  have hOpen : step (frames, expected) .openObject = some (.object [] :: frames, .keyOrEnd) := by
    rcases hExpected with rfl | rfl <;> rfl
  rw [List.cons_append, List.foldlM_cons, hOpen]
  cases hParts with
  | nil => rfl
  | @cons part field parts fields hPart hMore =>
      obtain ⟨inner, rfl, hInner⟩ := hPart
      rw [intercalate_cons, List.append_assoc]
      show (inner ++ _).foldlM step (.field [] field.1 :: frames, .value) = _
      rw [List.foldlM_append, hInner _ _ (.inl rfl)]
      exact moreFields hMore frames [] field

end Builds

/-- A text that is read as a value, wherever it stands. -/
def Reads (text : List Char) (value : Value) : Prop :=
  ∃ tokens, Scans text tokens ∧ Builds tokens value

namespace Reads

theorem text (content : String) : Reads (quote content.toList) (.text (some content)) := by
  refine ⟨_, .quote content.toList, ?_⟩
  rw [String.ofList_toList]
  exact .scalar _

theorem array {texts : List (List Char)} {values : List Value}
    (hTexts : List.Forall₂ Reads texts values) :
    Reads ('[' :: [','].intercalate texts ++ [']']) (.array values) := by
  obtain ⟨parts, hScans, hBuilds⟩ := exists_forall₂_between hTexts
  exact ⟨_, ((Scans.mark rfl fun _ => rfl).append (.commaSeparated hScans)).append
    (.mark rfl fun _ => rfl), .array hBuilds⟩

/-- The text of a field: its key in quotes, a colon, and the text of its value. -/
def Field (text : List Char) (field : Option String × Value) : Prop :=
  ∃ key inner, text = quote key.toList ++ ':' :: inner ∧ field.1 = some key ∧ Reads inner field.2

theorem Field.exists_tokens {text : List Char} {field : Option String × Value}
    (hField : Field text field) : ∃ tokens, Scans text tokens ∧ Builds.Field tokens field := by
  obtain ⟨key, inner, rfl, hKey, tokens, hScans, hBuilds⟩ := hField
  refine ⟨_, (Scans.quote key.toList).append ((Scans.mark rfl fun _ => rfl).append hScans),
    tokens, ?_, hBuilds⟩
  rw [hKey, String.ofList_toList]
  rfl

theorem object {texts : List (List Char)} {fields : List (Option String × Value)}
    (hTexts : List.Forall₂ Field texts fields) :
    Reads ('\x7b' :: [','].intercalate texts ++ ['\x7d']) (.object fields) := by
  obtain ⟨parts, hScans, hBuilds⟩ :=
    exists_forall₂_between (hTexts.imp fun _ _ hField => hField.exists_tokens)
  exact ⟨_, ((Scans.mark rfl fun _ => rfl).append (.commaSeparated hScans)).append
    (.mark rfl fun _ => rfl), .object hBuilds⟩

/-- Alone, such a text is a document. -/
theorem parse {text : String} {value : Value} (hText : Reads text.toList value) :
    Value.parse text = some value := by
  obtain ⟨tokens, hScans, hBuilds⟩ := hText
  have hWhole := hScans []
  rw [List.append_nil, Token.scan_nil] at hWhole
  rw [Value.parse, hWhole]
  simp [Value.ofTokens?, hBuilds [] .value (.inl rfl)]

end Reads

end Stencil.Json
