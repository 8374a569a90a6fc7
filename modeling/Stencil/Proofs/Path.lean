import Stencil.Proofs.Disk.Change

/-! The path of an entry. Whatever the path of a folder looks like, the path of an entry in it
ends with the name of the entry, and different ways down from a folder lead to different paths. -/

namespace Stencil

namespace Occurrence

variable {α : Type} [DecidableEq α]

theorem fields_ne_nil (separator : α) (xs : List α) : fields separator xs ≠ [] := by
  induction xs with
  | nil => simp [fields]
  | cons a rest ih =>
      rw [fields]
      split
      · simp
      · split <;> simp

theorem fields_of_not_mem {separator : α} {xs : List α} (hMem : separator ∉ xs) :
    fields separator xs = [xs] := by
  induction xs with
  | nil => rfl
  | cons a rest ih =>
      obtain ⟨hHere, hLater⟩ := not_or.mp (mt List.mem_cons.mpr hMem)
      rw [fields, if_neg (Ne.symm hHere), ih hLater]

/-- A separator cuts: what is before it and what is behind it are divided apart. -/
theorem fields_append (separator : α) (xs ys : List α) :
    fields separator (xs ++ separator :: ys) = fields separator xs ++ fields separator ys := by
  induction xs with
  | nil => simp [fields]
  | cons a rest ih =>
      rw [List.cons_append, fields, fields, ih]
      by_cases hSame : a = separator
      · simp [hSame]
      · cases hFields : fields separator rest with
        | nil => exact absurd hFields (fields_ne_nil separator rest)
        | cons field more => simp [hSame]

/-- What follows the last separator is the last field. -/
theorem fields_append_of_not_mem {separator : α} (xs : List α) {ys : List α}
    (hMem : separator ∉ ys) :
    fields separator (xs ++ separator :: ys) = fields separator xs ++ [ys] := by
  rw [fields_append, fields_of_not_mem hMem]

/-- No part holds the separator. -/
theorem not_mem_of_mem_fields {separator : α} {xs part : List α}
    (hPart : part ∈ fields separator xs) : separator ∉ part := by
  induction xs generalizing part with
  | nil => simp_all [fields]
  | cons a rest ih =>
      rw [fields] at hPart
      split at hPart
      · rcases List.mem_cons.mp hPart with rfl | hLater
        · exact List.not_mem_nil
        · exact ih hLater
      next hHere =>
      cases hFields : fields separator rest with
      | nil => exact absurd hFields (fields_ne_nil separator rest)
      | cons field more =>
          rw [hFields] at hPart ih
          rcases List.mem_cons.mp hPart with rfl | hLater
          · exact fun hMem => (List.mem_cons.mp hMem).elim (hHere ·.symm) (ih List.mem_cons_self)
          · exact ih (List.mem_cons_of_mem _ hLater)

omit [DecidableEq α] in
theorem joinFields_cons (separator : α) (part : List α) {parts : List (List α)}
    (hParts : parts ≠ []) :
    joinFields separator (part :: parts) = part ++ separator :: joinFields separator parts := by
  cases parts with
  | nil => exact absurd rfl hParts
  | cons other parts => rfl

omit [DecidableEq α] in
theorem joinFields_append (separator : α) {parts more : List (List α)} (hParts : parts ≠ [])
    (hMore : more ≠ []) :
    joinFields separator (parts ++ more) =
      joinFields separator parts ++ separator :: joinFields separator more := by
  induction parts with
  | nil => exact absurd rfl hParts
  | cons part parts ih =>
      cases parts with
      | nil => exact joinFields_cons separator part hMore
      | cons other parts =>
          rw [List.cons_append, joinFields_cons separator part (by simp), ih (List.cons_ne_nil _ _),
            joinFields_cons separator part (List.cons_ne_nil _ _), List.append_assoc]
          rfl

/-- Parts joined again are what was divided. -/
theorem joinFields_fields (separator : α) (xs : List α) :
    joinFields separator (fields separator xs) = xs := by
  induction xs with
  | nil => rfl
  | cons a rest ih =>
      rw [fields]
      cases hFields : fields separator rest with
      | nil => exact absurd hFields (fields_ne_nil separator rest)
      | cons field more =>
          rw [hFields] at ih
          split
          · next hSame => rw [joinFields_cons separator [] (List.cons_ne_nil _ _), ih, hSame]; rfl
          · cases more with
            | nil => exact congrArg (a :: ·) ih
            | cons other more => exact congrArg (a :: ·) ih

/-- Fields without a separator in them are got back from what they were joined to. -/
theorem fields_joinFields {separator : α} {parts : List (List α)} (hParts : parts ≠ [])
    (hFree : ∀ part ∈ parts, separator ∉ part) :
    fields separator (joinFields separator parts) = parts := by
  induction parts with
  | nil => exact absurd rfl hParts
  | cons part parts ih =>
      cases parts with
      | nil => exact fields_of_not_mem (hFree part List.mem_cons_self)
      | cons other more =>
          have hMore : other :: more ≠ [] := List.cons_ne_nil _ _
          rw [joinFields_cons separator part hMore, fields_append,
            fields_of_not_mem (hFree part List.mem_cons_self),
            ih hMore fun part hMem => hFree part (List.mem_cons_of_mem _ hMem)]
          rfl

/-- The last part is what stands behind the last separator. -/
theorem eq_append_of_fields {separator : α} {xs part : List α} {before : List (List α)}
    (hFields : fields separator xs = before ++ [part]) :
    ∃ front, xs = front ++ part ∧ (front = [] ∨ ∃ init, front = init ++ [separator]) := by
  have hText := joinFields_fields separator xs
  rw [hFields] at hText
  clear hFields
  induction before generalizing xs with
  | nil => exact ⟨[], hText.symm, .inl rfl⟩
  | cons field before ih =>
      rw [List.cons_append, joinFields_cons separator field (by simp)] at hText
      obtain ⟨front, hLater, hFront⟩ := ih rfl
      rw [hLater] at hText
      refine ⟨field ++ separator :: front, by simp [← hText], .inr ?_⟩
      rcases hFront with rfl | ⟨init, rfl⟩
      · exact ⟨field, rfl⟩
      · exact ⟨field ++ separator :: init, by simp⟩

end Occurrence

namespace Name

theorem isProper_iff {text : String} :
    isProper text = true ↔ text ≠ "" ∧ text ≠ "." ∧ text ≠ ".." ∧ '/' ∉ text.toList := by
  simp [isProper, and_assoc]

theorem ne_nil (name : Name) : name.text.toList ≠ [] := by
  obtain ⟨hEmpty, -⟩ := isProper_iff.mp name.proper
  exact fun hNil => hEmpty (String.toList_eq_nil_iff.mp hNil)

theorem ne_dot (name : Name) : name.text.toList ≠ ['.'] := by
  obtain ⟨-, hDot, -⟩ := isProper_iff.mp name.proper
  exact fun hText => hDot (String.toList_inj.mp hText)

theorem ne_dots (name : Name) : name.text.toList ≠ ['.', '.'] := by
  obtain ⟨-, -, hDots, -⟩ := isProper_iff.mp name.proper
  exact fun hText => hDots (String.toList_inj.mp hText)

theorem slash_not_mem (name : Name) : '/' ∉ name.text.toList :=
  (isProper_iff.mp name.proper).2.2.2

end Name

namespace Path

/-- What stands in front of a name that is joined to a path. -/
def front (path : Path) : List Char :=
  if path.text.isEmpty || path.text.toList.getLast? = some '/' then path.text.toList
  else path.text.toList ++ ['/']

/-- Joining adds a slash only where there is something to part and none is there yet. -/
theorem text_join_part (path : Path) {part : String} (hPart : '/' ∉ part.toList) :
    (path.join part).text.toList = path.front ++ part.toList := by
  have hHead : part.toList.head? ≠ some '/' := fun hSlash => hPart (List.mem_of_mem_head? hSlash)
  rw [join, if_neg hHead, front]
  split
  · exact String.toList_append
  · simp [String.toList_append]

/-- What is joined to a path stands behind a slash, which the path may end with itself. -/
theorem text_join_of_ne {path : Path} (hText : path.text ≠ "") {part : String}
    (hPart : '/' ∉ part.toList) :
    (∃ init, path.text.toList = init ++ ['/'] ∧
        (path.join part).text.toList = init ++ '/' :: part.toList) ∨
      (path.join part).text.toList = path.text.toList ++ '/' :: part.toList := by
  have hJoin := path.text_join_part hPart
  rw [front] at hJoin
  split at hJoin
  · next hEnd =>
      rcases Bool.or_eq_true_iff.mp hEnd with hEmpty | hSlash
      · exact absurd (String.isEmpty_iff.mp hEmpty) hText
      · obtain ⟨init, hInit⟩ := List.getLast?_eq_some_iff.mp (of_decide_eq_true hSlash)
        rw [hInit, List.append_assoc] at hJoin
        exact .inl ⟨init, hInit, hJoin⟩
  · rw [List.append_assoc] at hJoin
    exact .inr hJoin

theorem text_join (path : Path) (name : Name) :
    (path.join name.text).text.toList = path.front ++ name.text.toList :=
  path.text_join_part name.slash_not_mem

theorem front_eq (path : Path) : path.front = [] ∨ ∃ init, path.front = init ++ ['/'] := by
  rw [front]
  split
  · next hEnd =>
      rcases Bool.or_eq_true_iff.mp hEnd with hEmpty | hSlash
      · exact .inl (String.toList_eq_nil_iff.mpr (String.isEmpty_iff.mp hEmpty))
      · exact .inr (List.getLast?_eq_some_iff.mp (of_decide_eq_true hSlash))
  · exact .inr ⟨_, rfl⟩

/-- A name is joined behind nothing or behind a slash. -/
theorem toList_join (path : Path) {name : String} (hName : '/' ∉ name.toList) :
    ∃ front, (path.join name).text.toList = front ++ name.toList ∧
      (front = [] ∨ ∃ init, front = init ++ ['/']) :=
  ⟨path.front, path.text_join_part hName, path.front_eq⟩

theorem length_head_le (path : Path) : path.head.length ≤ 1 := by
  rw [head]
  split <;> simp

theorem head_eq_nil {path : Path} (hSlash : '/' ∉ path.text.toList)
    (hDot : path.text.toList ≠ ['.']) : path.head = [] := by
  rw [head]
  split
  · next rest hChars => exact absurd (hChars ▸ List.mem_cons_self) hSlash
  · next hChars => exact absurd hChars hDot
  · next rest hChars =>
      exact absurd (hChars ▸ List.mem_cons_of_mem _ List.mem_cons_self) hSlash
  · rfl

/-- The last part of a path that ends with a name is that name. -/
theorem parts_of_text {path : Path} {front : List Char} {name : Name}
    (hText : path.text.toList = front ++ name.text.toList)
    (hFront : front = [] ∨ ∃ init, front = init ++ ['/']) :
    ∃ before, path.parts = before ++ [name.text.toList] := by
  rcases hFront with rfl | ⟨init, rfl⟩
  · refine ⟨[], ?_⟩
    have hHead : path.head = [] := by
      apply head_eq_nil <;> rw [hText]
      · exact name.slash_not_mem
      · exact name.ne_dot
    rw [parts, hHead, hText]
    exact Occurrence.fields_of_not_mem name.slash_not_mem
  · have hOne := path.length_head_le
    have hLast (xs : List Char) := Occurrence.fields_append_of_not_mem xs name.slash_not_mem
    rw [parts, hText, List.append_assoc, List.singleton_append]
    rcases Nat.le_one_iff_eq_zero_or_eq_one.mp hOne with hZero | hOne
    · exact ⟨_, by rw [hZero, List.drop_zero, hLast]⟩
    · cases init with
      | nil =>
          refine ⟨[], ?_⟩
          rw [hOne]
          exact Occurrence.fields_of_not_mem name.slash_not_mem
      | cons c init =>
          exact ⟨_, by rw [hOne, List.cons_append, List.drop_one, List.tail_cons, hLast]⟩

theorem isIdle_name (name : Name) : isIdle name.text.toList = false := by
  simp [isIdle, name.ne_nil, name.ne_dot]

theorem fileName?_of_text {path : Path} {front : List Char} {name : Name}
    (hText : path.text.toList = front ++ name.text.toList)
    (hFront : front = [] ∨ ∃ init, front = init ++ ['/']) :
    path.fileName? = some name.text := by
  obtain ⟨before, hParts⟩ := parts_of_text hText hFront
  rw [fileName?, partsBackward, hParts, List.reverse_append, List.reverse_singleton,
    List.singleton_append, List.dropWhile_cons_of_neg (by simp [isIdle_name])]
  simp [name.ne_dots]

/-- What was joined last is the file name. -/
theorem fileName?_join (path : Path) (name : Name) :
    (path.join name.text).fileName? = some name.text := by
  obtain ⟨front, hText, hFront⟩ := path.toList_join name.slash_not_mem
  exact fileName?_of_text hText hFront

theorem front_join (path : Path) (name : Name) :
    (path.join name.text).front = path.front ++ name.text.toList ++ ['/'] := by
  have hText := path.text_join name
  have hEnd : (path.join name.text).text.toList.getLast? ≠ some '/' := by
    rw [hText, List.getLast?_append]
    cases hLast : name.text.toList.getLast? with
    | none => exact absurd (List.getLast?_eq_none_iff.mp hLast) name.ne_nil
    | some c =>
        rw [Option.some_or]
        rintro ⟨rfl⟩
        exact name.slash_not_mem (List.mem_of_getLast? hLast)
  have hEmpty : (path.join name.text).text.isEmpty = false := by
    rw [Bool.eq_false_iff, Ne, String.isEmpty_iff, ← String.toList_eq_nil_iff, hText]
    simp [name.ne_nil]
  rw [front, hEmpty, if_neg (by simp [hEnd]), hText]

/-- The path of what is reached by going down through folders of these names. -/
def descend (path : Path) (names : List Name) : Path :=
  names.foldl (fun path name => path.join name.text) path

theorem descend_concat (path : Path) (names : List Name) (name : Name) :
    path.descend (names ++ [name]) = (path.descend names).join name.text :=
  List.foldl_concat _ path name names

/-- Names that are joined one by one are the same as their text joined at once. -/
theorem text_descend (path : Path) (name : Name) (names : List Name) :
    (path.descend (name :: names)).text.toList = path.front ++
      Occurrence.joinFields '/' ((name :: names).map fun name => name.text.toList) := by
  induction names generalizing path name with
  | nil => exact path.text_join name
  | cons other names ih =>
      have hDescend : path.descend (name :: other :: names) =
          (path.join name.text).descend (other :: names) := rfl
      rw [hDescend, ih, front_join, List.map_cons (l := other :: names),
        Occurrence.joinFields_cons '/' _ (by simp)]
      simp only [List.append_assoc, List.singleton_append]

/-- Going down through other names leads to another path. -/
theorem descend_injective {path : Path} {names names' : List Name} (hNames : names ≠ [])
    (hNames' : names' ≠ []) (hSame : path.descend names = path.descend names') :
    names = names' := by
  obtain ⟨name, names, rfl⟩ := List.exists_cons_of_ne_nil hNames
  obtain ⟨name', names', rfl⟩ := List.exists_cons_of_ne_nil hNames'
  have hText := congrArg (fun path => path.text.toList) hSame
  simp only [text_descend] at hText
  have hFields := congrArg (Occurrence.fields '/') (List.append_cancel_left hText)
  have hFree (names : List Name) :
      ∀ part ∈ names.map fun name => name.text.toList, '/' ∉ part := by
    intro part hPart
    obtain ⟨name, -, rfl⟩ := List.mem_map.mp hPart
    exact name.slash_not_mem
  rw [Occurrence.fields_joinFields (by simp) (hFree _),
    Occurrence.fields_joinFields (by simp) (hFree _)] at hFields
  exact (List.map_inj_right fun _ _ hText =>
    Disk.Name.text_injective (String.toList_inj.mp hText)).mp hFields

end Path

end Stencil
