import Stencil.Proofs.Discovery
import Stencil.Proofs.Substitution.Convention
import Stencil.Proofs.Text.Utf8

/-! What literal keys do to a content, told by the parts it comes apart into. Each key takes its
turn on what the turns before it left, so it also meets what earlier values brought in. -/

namespace Stencil.Substitution.Literal

open Text

section SearchToken

variable {opening closing key : String}

/-- A key stands between the delimiters if it begins and ends with them and they do not overlap in
it. -/
theorem isWrapped_iff :
    isWrapped opening closing key = true ↔
      opening.utf8ByteSize + closing.utf8ByteSize ≤ key.utf8ByteSize ∧
        opening.toList <+: key.toList ∧ closing.toList <:+ key.toList := by
  simp only [isWrapped, Bool.and_eq_true, decide_eq_true_eq, List.isPrefixOf_iff_prefix,
    List.isSuffixOf_iff_suffix, and_assoc]

/-- What is searched for stands between the delimiters, which do not share any of it. -/
theorem isWrapped_searchToken (opening closing key : String) :
    isWrapped opening closing (searchToken opening closing key) = true := by
  rw [searchToken]
  cases hWrapped : isWrapped opening closing key with
  | true => rw [if_pos rfl, hWrapped]
  | false =>
      rw [if_neg Bool.false_ne_true, isWrapped_iff]
      refine ⟨?_, ?_, ?_⟩
      · rw [String.utf8ByteSize_append, String.utf8ByteSize_append]
        omega
      · rw [String.toList_append, String.toList_append, List.append_assoc]
        exact List.prefix_append _ _
      · rw [String.toList_append]
        exact List.suffix_append _ _

theorem searchToken_searchToken (opening closing key : String) :
    searchToken opening closing (searchToken opening closing key) =
      searchToken opening closing key :=
  if_pos (isWrapped_searchToken opening closing key)

end SearchToken

/-- The turn of one key on a content, with what it leaves and how often its token was there. A key
whose token is empty is passed over. -/
inductive Turn (opening closing : String) (table : Table String String)
    (entry : String × String) : Bytes → Bytes → Nat → Prop
  | passed {content : Bytes} (hToken : searchToken opening closing entry.1 = "") :
      Turn opening closing table entry content content 0
  | replaced {content last : Bytes} {gaps : List Bytes}
      (hToken : searchToken opening closing entry.1 ≠ "")
      (hParts : Occurrence.Parts (Utf8.encode (searchToken opening closing entry.1)) content
        gaps last) :
      Turn opening closing table entry content
        (Occurrence.weave (Utf8.encode (conventional entry.1 entry.2 table)) last gaps) gaps.length

namespace Turn

variable {opening closing : String} {table : Table String String} {entry : String × String}
  {before after : Bytes} {hits : Nat}

/-- Every token that is taken out makes room for one value. -/
theorem length_add (hTurn : Turn opening closing table entry before after hits) :
    after.length + hits * (Utf8.encode (searchToken opening closing entry.1)).length =
      before.length + hits * (Utf8.encode (conventional entry.1 entry.2 table)).length := by
  cases hTurn with
  | passed => rw [Nat.zero_mul, Nat.zero_mul]
  | replaced hToken hParts => exact hParts.length_weave_add _

theorem substituteKey_eq (hTurn : Turn opening closing table entry before after hits)
    (count : Nat) (faults : List (Bytes × Fault)) :
    substituteKey opening closing table ⟨before, count, faults⟩ entry =
      ⟨after, count + hits, faults⟩ := by
  cases hTurn with
  | passed hToken =>
      have hEmpty : (Utf8.encode "").isEmpty = true := rfl
      rw [substituteKey, hToken, if_pos hEmpty, Nat.add_zero]
  | replaced hToken hParts =>
      have hNe := Utf8.encode_ne_nil hToken
      obtain ⟨hSplice, hLength⟩ :=
        hParts.splice_eq hNe (Utf8.encode (conventional entry.1 entry.2 table))
      rw [substituteKey, if_neg (by simpa using hNe)]
      dsimp only
      rw [hSplice, hLength]

end Turn

/-- Every key has its turn, whatever the content. -/
theorem exists_turn (opening closing : String) (table : Table String String)
    (entry : String × String) (content : Bytes) :
    ∃ after hits, Turn opening closing table entry content after hits := by
  by_cases hToken : searchToken opening closing entry.1 = ""
  · exact ⟨content, 0, .passed hToken⟩
  · obtain ⟨gaps, last, hParts⟩ := Occurrence.exists_parts (Utf8.encode_ne_nil hToken) content
    exact ⟨_, _, .replaced hToken hParts⟩

/-- The turns of all keys, one after the other, and how many places they were given in all. -/
inductive KeyByKey (opening closing : String) (table : Table String String) :
    List (String × String) → Bytes → Bytes → Nat → Prop
  | done {content : Bytes} : KeyByKey opening closing table [] content content 0
  | turn {entry : String × String} {entries : List (String × String)}
      {before between after : Bytes} {hits count : Nat}
      (hTurn : Turn opening closing table entry before between hits)
      (hRest : KeyByKey opening closing table entries between after count) :
      KeyByKey opening closing table (entry :: entries) before after (hits + count)

section KeyByKey

variable {opening closing : String} {table : Table String String}

/-- Turns in a row are the run of the keys. By induction on the entries, with any count and faults
from before. -/
theorem KeyByKey.foldl_eq {entries : List (String × String)} {before after : Bytes} {count : Nat}
    (hTurns : KeyByKey opening closing table entries before after count) (done : Nat)
    (faults : List (Bytes × Fault)) :
    entries.foldl (substituteKey opening closing table) ⟨before, done, faults⟩ =
      ⟨after, done + count, faults⟩ := by
  induction hTurns generalizing done with
  | done => rfl
  | turn hTurn hRest ih =>
      rw [List.foldl_cons, hTurn.substituteKey_eq, ih, Nat.add_assoc]

theorem exists_keyByKey (opening closing : String) (table : Table String String)
    (entries : List (String × String)) (content : Bytes) :
    ∃ after count, KeyByKey opening closing table entries content after count := by
  induction entries generalizing content with
  | nil => exact ⟨content, 0, .done⟩
  | cons entry entries ih =>
      obtain ⟨between, hits, hTurn⟩ := exists_turn opening closing table entry content
      obtain ⟨after, count, hRest⟩ := ih between
      exact ⟨after, hits + count, .turn hTurn hRest⟩

theorem keyByKey_iff {entries : List (String × String)} {before after : Bytes} {count : Nat} :
    KeyByKey opening closing table entries before after count ↔
      entries.foldl (substituteKey opening closing table) (.unchanged before) =
        ⟨after, count, []⟩ := by
  have hUnique {after' : Bytes} {count' : Nat}
      (hTurns : KeyByKey opening closing table entries before after' count') :
      entries.foldl (substituteKey opening closing table) (.unchanged before) =
        ⟨after', count', []⟩ := by
    rw [Substituted.unchanged, hTurns.foldl_eq, Nat.zero_add]
  refine ⟨hUnique, fun hFold => ?_⟩
  obtain ⟨after', count', hTurns⟩ := exists_keyByKey opening closing table entries before
  obtain ⟨rfl, rfl, -⟩ := (Substituted.mk.injEq ..).mp ((hUnique hTurns).symm.trans hFold)
  exact hTurns

end KeyByKey

/-- The keys take their turns in the order in which they were first seen, each with its last value,
and the result is where these turns lead and nowhere else. A turn keeps the gaps of the content
between the leftmost tokens that do not overlap, and puts a value for each token. What is searched
for always stands between the delimiters. -/
theorem substitute_takes_turns (opening closing : String) (replacements : Table String String)
    (values : Values) (content : Bytes) :
    let table := replacements.merge values.replacements
    let entries := values.effective.entries
    (∀ after count, KeyByKey opening closing table entries content after count ↔
      substitute opening closing replacements values content = ⟨after, count, []⟩) ∧
    (∃ after count, KeyByKey opening closing table entries content after count) ∧
    entries.map Prod.fst = (values.assignments.map Assignment.key).eraseDups ∧
    (∀ key value, (key, value) ∈ entries ↔
      (values.assignments.reverse.find? fun assignment => assignment.key = key) =
        some ⟨key, value⟩) ∧
    (∀ text, table.get? text = (values.replacements.get? text).or (replacements.get? text)) ∧
    (∀ entry before after hits, Turn opening closing table entry before after hits →
      after.length + hits * (Utf8.encode (searchToken opening closing entry.1)).length =
        before.length + hits * (Utf8.encode (conventional entry.1 entry.2 table)).length) ∧
    ∀ key,
      let token := searchToken opening closing key
      searchToken opening closing token = token ∧ opening.toList <+: token.toList ∧
        closing.toList <:+ token.toList ∧
        opening.utf8ByteSize + closing.utf8ByteSize ≤ token.utf8ByteSize := by
  intro table entries
  refine ⟨fun _ _ => keyByKey_iff, exists_keyByKey opening closing table entries content, ?_,
    fun key value => ?_, Table.get?_merge _ _, fun _ _ _ _ hTurn => hTurn.length_add, ?_⟩
  · have hKeys : values.effective.keys = (values.assignments.map Assignment.key).eraseDups := by
      rw [Values.effective, Table.keys_ofList, List.map_map]
      rfl
    exact hKeys
  · rw [Table.mem_entries_iff, Values.get?_effective]
    cases hLast : values.assignments.reverse.find? fun assignment => assignment.key = key with
    | none => simp
    | some assignment =>
        have hKey : assignment.key = key := by simpa using List.find?_some hLast
        subst hKey
        cases assignment
        simp
  · intro key token
    obtain ⟨hSize, hFront, hBack⟩ := isWrapped_iff.mp (isWrapped_searchToken opening closing key)
    exact ⟨searchToken_searchToken opening closing key, hFront, hBack, hSize⟩

/-- The first key stands between the delimiters already, and its token overlaps itself. The second
one is found in what the first left, and asks for another case and for the table, whose first entry
has got another replacement from the values. -/
theorem substitute_overlapping_tokens :
    let values : Values :=
      { assignments := [⟨"aba", "c"⟩, ⟨"c-APPLY_UPPERCASE-APPLY_REPLACE", "x-x"⟩,
          ⟨"aba", "(ac-APPLY_UPPERCASE-APPLY_REPLACEa)"⟩]
        replacements := .ofList [("-", "+")] }
    let replacements : Table String String := .ofList [("-", "_"), ("X", "-")]
    let content := Utf8.encode "ababa"
    substitute "a" "a" replacements values content = ⟨Utf8.encode "(-+-)ba", 2, []⟩ ∧
    KeyByKey "a" "a" (replacements.merge values.replacements) values.effective.entries content
      (Utf8.encode "(-+-)ba") 2 := by
  intro values replacements content
  have hResult : substitute "a" "a" replacements values content =
      ⟨Utf8.encode "(-+-)ba", 2, []⟩ := by decide +kernel
  obtain ⟨hTurns, -⟩ := substitute_takes_turns "a" "a" replacements values content
  exact ⟨hResult, (hTurns _ _).mpr hResult⟩

end Stencil.Substitution.Literal
