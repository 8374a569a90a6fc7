import Stencil.Yaml.Node

/-! Tokens that are read as a node wherever they stand. The tokens of a collection are put together
from those of what it holds; twice as many calls suffice as there are tokens. -/

namespace Stencil.Yaml

namespace Node

/-- Tokens that are read as a node where a value may stand, unless an item follows. -/
structure SpellsValue (tokens : List NumberedToken) (node : Node) : Prop where
  stands : ∀ rest, endsBlockEntry (tokens ++ rest) = false
  read : ∀ handles fuel rest, 2 * tokens.length ≤ fuel → rest.head? ≠ some .item →
    Node.read handles fuel true true (tokens ++ rest) = some (node, rest)

/-- Tokens that are read as a node wherever one may stand. -/
structure Spells (tokens : List NumberedToken) (node : Node) : Prop where
  begins : ∃ first more, tokens = first :: more ∧ first ≠ .item ∧
    ∀ rest, endsBlockEntry (first :: rest) = false
  read : ∀ handles fuel bare rest, 2 * tokens.length ≤ fuel →
    Node.read handles fuel true bare (tokens ++ rest) = some (node, rest)

/-- Tokens of the entries of a mapping. -/
inductive SpellsEntries : List NumberedToken → List (Node × Node) → Prop
  | nil : SpellsEntries [] []
  | cons {keyTokens valueTokens more : List NumberedToken} {key value : Node}
      {entries : List (Node × Node)} (hKey : Spells keyTokens key)
      (hValue : SpellsValue valueTokens value) (hMore : SpellsEntries more entries) :
      SpellsEntries (.key :: keyTokens ++ .value :: valueTokens ++ more) ((key, value) :: entries)

/-- Tokens of the items of a sequence that is not indented. -/
inductive SpellsItems : List NumberedToken → List Node → Prop
  | nil : SpellsItems [] []
  | cons {tokens more : List NumberedToken} {item : Node} {items : List Node}
      (hItem : Spells tokens item) (hMore : SpellsItems more items) :
      SpellsItems (.item :: tokens ++ more) (item :: items)

variable {tokens tokens' : List NumberedToken} {node : Node} {items items' : List Node}
  {entries entries' : List (Node × Node)}

theorem Spells.spellsValue (hNode : Spells tokens node) : SpellsValue tokens node where
  stands := by
    obtain ⟨first, more, rfl, -, hStands⟩ := hNode.begins
    exact fun rest => hStands _
  read := fun handles fuel rest hFuel _ => hNode.read handles fuel true rest hFuel

namespace SpellsEntries

theorem single {keyTokens valueTokens : List NumberedToken} {key value : Node}
    (hKey : Spells keyTokens key) (hValue : SpellsValue valueTokens value) :
    SpellsEntries (.key :: keyTokens ++ .value :: valueTokens) [(key, value)] := by
  simpa using cons hKey hValue nil

theorem append (hEntries : SpellsEntries tokens entries)
    (hEntries' : SpellsEntries tokens' entries') :
    SpellsEntries (tokens ++ tokens') (entries ++ entries') := by
  induction hEntries with
  | nil => exact hEntries'
  | cons hKey hValue _ ih =>
      rw [List.append_assoc, List.cons_append]
      exact cons hKey hValue ih

/-- No item begins an entry. -/
theorem head_ne_item (hEntries : SpellsEntries tokens entries) (rest : List NumberedToken) :
    (tokens ++ .blockEnd :: rest).head? ≠ some .item := by
  cases hEntries <;> simp

theorem read (hEntries : SpellsEntries tokens entries) (handles : Handles) (rest : List NumberedToken)
    {fuel : Nat} (hFuel : 2 * tokens.length ≤ fuel) :
    readBlockEntries handles fuel (tokens ++ .blockEnd :: rest) = some (entries, rest) := by
  induction hEntries generalizing fuel with
  | nil => cases fuel <;> simp [readBlockEntries]
  | @cons keyTokens valueTokens more key value entries hKey hValue hMore ih =>
      simp only [List.length_append, List.length_cons] at hFuel
      cases fuel with
      | zero => omega
      | succ fuel =>
          have hKeyRead := hKey.read handles fuel true
            (.value :: valueTokens ++ (more ++ .blockEnd :: rest)) (by omega)
          have hValueRead := hValue.read handles fuel _ (by omega) (hMore.head_ne_item rest)
          have hStands :=
            hKey.spellsValue.stands (.value :: valueTokens ++ (more ++ .blockEnd :: rest))
          simp only [List.cons_append, List.append_assoc] at hKeyRead hStands ⊢
          have hMoreRead := ih (show 2 * more.length ≤ fuel by omega)
          rw [readBlockEntries, hStands, if_neg Bool.false_ne_true, hKeyRead]
          simp [hValue.stands, hValueRead, hMoreRead]

end SpellsEntries

namespace SpellsItems

theorem append (hItems : SpellsItems tokens items) (hItems' : SpellsItems tokens' items') :
    SpellsItems (tokens ++ tokens') (items ++ items') := by
  induction hItems with
  | nil => exact hItems'
  | cons hItem _ ih =>
      rw [List.append_assoc, List.cons_append]
      exact cons hItem ih

theorem read (hItems : SpellsItems tokens items) (handles : Handles) {rest : List NumberedToken}
    {fuel : Nat} (hFuel : 2 * tokens.length ≤ fuel + 1) (hPos : 0 < fuel)
    (hRest : rest.head? ≠ some .item) :
    readBareItems handles fuel (tokens ++ rest) = some (items, rest) := by
  induction hItems generalizing fuel with
  | nil =>
      cases fuel with
      | zero => omega
      | succ fuel =>
          rw [List.nil_append, readBareItems]
          rintro more rfl
          exact hRest rfl
  | @cons tokens more item items hItem _ ih =>
      obtain ⟨first, others, rfl, hFirst, hStands⟩ := hItem.begins
      simp only [List.length_append, List.length_cons] at hFuel
      cases fuel with
      | zero => omega
      | succ fuel =>
          have hItemRead := hItem.read handles fuel false (more ++ rest) (by simp; omega)
          have hMoreRead := ih (show 2 * more.length ≤ fuel + 1 by omega) (by omega)
          simp only [List.cons_append, List.append_assoc] at hItemRead ⊢
          rw [readBareItems]
          · simp [hStands, hItemRead, hMoreRead]
          · exact fun _ hSame => hFirst (List.cons.inj hSame).1

end SpellsItems

namespace Spells

theorem scalar (text : List Char) (plain : Bool) :
    Spells [.scalar text plain] (.scalar none none (String.ofList text) plain) := by
  refine ⟨⟨_, _, rfl, by simp, fun _ => rfl⟩, fun handles fuel bare rest hFuel => ?_⟩
  cases fuel with
  | zero => simp at hFuel
  | succ fuel => simp [Node.read, readProperties, ofScalar]

theorem mapping (hEntries : SpellsEntries tokens entries) :
    Spells (.blockMapping :: tokens ++ [.blockEnd]) (.mapping none entries) := by
  refine ⟨⟨_, _, rfl, by simp, fun _ => rfl⟩, fun handles fuel bare rest hFuel => ?_⟩
  simp only [List.length_append, List.length_cons, List.length_nil] at hFuel
  cases fuel with
  | zero => omega
  | succ fuel =>
      have hRead : readBlockEntries handles fuel (tokens ++ .blockEnd :: rest) =
          some (entries, rest) :=
        hEntries.read handles rest (by omega)
      simp [Node.read, readProperties, hRead]

end Spells

/-- A sequence that is not indented is the value of a key. -/
theorem SpellsValue.sequence (hItems : SpellsItems tokens items) (hNonempty : items ≠ []) :
    SpellsValue tokens (.sequence none items) := by
  cases hItems with
  | nil => exact absurd rfl hNonempty
  | @cons first more item items hItem hMore =>
      refine ⟨fun _ => rfl, fun handles fuel rest hFuel hRest => ?_⟩
      have hItems := SpellsItems.cons hItem hMore
      rw [List.cons_append, List.length_cons] at hFuel
      cases fuel with
      | zero => omega
      | succ fuel =>
          have hRead : readBareItems handles fuel (.item :: first ++ more ++ rest) =
              some (item :: items, rest) :=
            hItems.read handles (by rw [List.cons_append, List.length_cons]; omega) (by omega) hRest
          simp only [List.cons_append, List.append_assoc] at hRead ⊢
          simp [Node.read, readProperties, hRead]

end Node

/-- Whether a token names an anchor. -/
def Token.isNamed {ν : Type} : Token ν → Bool
  | .anchor _ | .alias _ => true
  | _ => false

/-- Where no anchors are named there are none to number. -/
theorem numberAnchors_of_unnamed {tokens : List RawToken} (known : Table (List Char) Nat)
    (hTokens : ∀ token ∈ tokens, token.isNamed = false) :
    numberAnchors known tokens = some (tokens.map (·.withNumber 0)) := by
  induction tokens with
  | nil => rfl
  | cons token tokens ih =>
      obtain ⟨hHere, hMore⟩ := List.forall_mem_cons.mp hTokens
      rw [numberAnchors, ih hMore]
      · rfl
      · rintro name rfl
        cases hHere
      · rintro name rfl
        cases hHere

/-- A mapping alone makes a document. -/
theorem Document.ofTokens?_mapping {tokens : List NumberedToken} {entries : List (Node × Node)}
    (hEntries : Node.SpellsEntries tokens entries) :
    ofTokens? (.blockMapping :: tokens ++ [.blockEnd, .streamEnd]) =
      some (ofRoot (.mapping none entries)) := by
  have hRoot : Node.read Node.standardHandles (2 * (tokens.length + 2 + 1) + 2) true false
      (.blockMapping :: (tokens ++ [.blockEnd, .streamEnd])) =
        some (.mapping none entries, [.streamEnd]) := by
    have hRead := (Node.Spells.mapping hEntries).read Node.standardHandles
      (2 * (tokens.length + 2 + 1) + 2) false [.streamEnd] (by simp; omega)
    simpa using hRead
  rw [ofTokens?]
  · simp [readDirectives, hRoot, isFinished]
  · simp

end Stencil.Yaml
