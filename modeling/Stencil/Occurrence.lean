/-!
Occurrences of one list in another, over bytes or over characters. Delimiters,
search tokens, separators and ignore patterns are all found through this module.
An occurrence is always the leftmost one, and successive occurrences never overlap.
-/

namespace Stencil.Occurrence

variable {α : Type} [DecidableEq α]

/-- What follows `front` in a list that begins with it. -/
def afterFront? : List α → List α → Option (List α)
  | [], hay => some hay
  | _ :: _, [] => none
  | a :: front, b :: hay => if a = b then afterFront? front hay else none

theorem afterFront?_eq_some_iff {front hay after : List α} :
    afterFront? front hay = some after ↔ hay = front ++ after := by
  induction front generalizing hay with
  | nil => simp [afterFront?]
  | cons a front ih =>
      cases hay with
      | nil => simp [afterFront?]
      | cons b hay =>
          by_cases same : a = b
          · simp [afterFront?, same, ih]
          · simp [afterFront?, same, Ne.symm same]

/-- What precedes the first occurrence of `needle`, and what follows it. -/
def cut? (needle : List α) : List α → Option (List α × List α)
  | [] => if needle.isEmpty then some ([], []) else none
  | a :: rest =>
      match afterFront? needle (a :: rest) with
      | some after => some ([], after)
      | none => (cut? needle rest).map fun (before, after) => (a :: before, after)

theorem eq_append_of_cut? {needle hay before after : List α}
    (h : cut? needle hay = some (before, after)) : hay = before ++ needle ++ after := by
  induction hay generalizing before with
  | nil => cases needle <;> simp_all [cut?]
  | cons a rest ih =>
      simp only [cut?] at h
      split at h
      · next found =>
          obtain ⟨rfl, rfl⟩ := Prod.mk.inj (Option.some.inj h)
          simpa using afterFront?_eq_some_iff.mp found
      · obtain ⟨⟨before', after'⟩, inner, same⟩ := Option.map_eq_some_iff.mp h
        obtain ⟨rfl, rfl⟩ := Prod.mk.inj same
        simp [ih inner]

theorem length_of_cut? {needle hay before after : List α}
    (h : cut? needle hay = some (before, after)) :
    hay.length = before.length + needle.length + after.length := by
  simp [eq_append_of_cut? h, Nat.add_assoc]

/-- Whether `needle` occurs at all. The empty list occurs everywhere. -/
def occursIn (needle hay : List α) : Bool := (cut? needle hay).isSome

/-- Offsets of the successive occurrences. `base` is the offset of the list given and
`skip` counts the elements still covered by the occurrence found last. -/
def offsetsFrom (needle : List α) (base skip : Nat) : List α → List Nat
  | [] => []
  | a :: rest =>
      match skip with
      | skip + 1 => offsetsFrom needle (base + 1) skip rest
      | 0 =>
          if needle.isPrefixOf (a :: rest) then
            base :: offsetsFrom needle (base + 1) (needle.length - 1) rest
          else offsetsFrom needle (base + 1) 0 rest

/-- Where the successive occurrences of a non-empty `needle` start, left to right. -/
def offsets (needle hay : List α) : List Nat := offsetsFrom needle 0 0 hay

/-- Replaces the `width` elements at each offset by `value`, copying `hay` from `cursor` on. -/
def spliceFrom (hay : List α) (width : Nat) (value : List α) (cursor : Nat) :
    List Nat → List α
  | [] => hay.drop cursor
  | offset :: offsets =>
      (hay.drop cursor).take (offset - cursor) ++ value ++
        spliceFrom hay width value (offset + width) offsets

/-- Replaces the `width` elements at each of the ascending `offsets` by `value`. -/
def splice (hay : List α) (offsets : List Nat) (width : Nat) (value : List α) : List α :=
  spliceFrom hay width value 0 offsets

/-- Replaces occurrences by `value`, passing over the first `skip` elements. -/
def replaceFrom (needle value : List α) (skip : Nat) : List α → List α
  | [] => []
  | a :: rest =>
      match skip with
      | skip + 1 => replaceFrom needle value skip rest
      | 0 =>
          if needle.isPrefixOf (a :: rest) then
            value ++ replaceFrom needle value (needle.length - 1) rest
          else a :: replaceFrom needle value 0 rest

/-- Replaces every successive occurrence of a non-empty `needle` by `value`. -/
def replaceAll (needle value hay : List α) : List α := replaceFrom needle value 0 hay

/-- What precedes the first `separator`, and what follows it. -/
def cutAt? (separator : α) : List α → Option (List α × List α)
  | [] => none
  | a :: rest =>
      if a = separator then some ([], rest)
      else (cutAt? separator rest).map fun (before, after) => (a :: before, after)

/-- The parts between separators: one more than there are separators. -/
def fields (separator : α) : List α → List (List α)
  | [] => [[]]
  | a :: rest =>
      if a = separator then [] :: fields separator rest
      else
        match fields separator rest with
        | [] => [[a]]
        | field :: more => (a :: field) :: more

/-- What precedes the last `separator`. -/
def beforeLast? (separator : α) : List α → Option (List α)
  | [] => none
  | a :: rest =>
      match beforeLast? separator rest with
      | some before => some (a :: before)
      | none => if a = separator then some [] else none

/-- Inverse of `fields`. -/
def joinFields (separator : α) : List (List α) → List α
  | [] => []
  | [field] => field
  | field :: more => field ++ separator :: joinFields separator more

end Stencil.Occurrence
