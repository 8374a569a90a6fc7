import Mathlib.Data.List.DropRight
import Stencil.Proofs.Path

/-! The folder of a path. What a name is joined to is the folder of the path that comes out, but
for idle parts at its end. The folder of a path has none there, so that a path keeps its folder when
it is given another name. Periods are no names: joined to a folder they lead to it or out of it. -/

namespace Stencil.Path

/-- What a path ends with is the name of an entry. -/
theorem isProper_of_fileName? {path : Path} {name : String} (hName : path.fileName? = some name) :
    Name.isProper name = true := by
  rw [fileName?] at hName
  split at hName
  · cases hName
  next part rest hParts =>
  split at hName
  · cases hName
  next hDots =>
  obtain rfl := Option.some.inj hName
  have hMem : part ∈ path.partsBackward := hParts ▸ List.mem_cons_self
  have hSlash : '/' ∉ part := by
    apply Occurrence.not_mem_of_mem_fields
    exact List.mem_reverse.mp ((List.dropWhile_sublist _).mem hMem)
  have hBusy : isIdle part = false := by
    have hHead := List.head?_dropWhile_not isIdle path.parts.reverse
    rw [← partsBackward, hParts] at hHead
    exact hHead
  rw [isIdle, Bool.or_eq_false_iff, List.isEmpty_eq_false_iff, decide_eq_false_iff_not] at hBusy
  have hChars {text : String} (hSame : String.ofList part = text) : part = text.toList := by
    rw [← hSame, String.toList_ofList]
  rw [Name.isProper_iff, String.toList_ofList]
  exact ⟨mt hChars hBusy.1, mt hChars hBusy.2, mt hChars hDots, hSlash⟩

/-- The parts of a path that stand for something. -/
def names (path : Path) : List (List Char) := path.parts.filter fun part => !isIdle part

theorem head_cases (path : Path) : path.head = [] ∨ path.head = ['/'] ∨ path.head = ['.'] := by
  rw [head]
  split <;> simp

/-- A path is its head and its parts, whichever of them are idle. -/
theorem text_eq (path : Path) :
    path.text.toList = path.head ++ Occurrence.joinFields '/' path.parts := by
  rw [parts, Occurrence.joinFields_fields, head]
  split <;> simp [*]

/-- The head of a path is told from what stands in front of any later slash. -/
theorem head_of_append_slash {path other : Path} {rest : List Char}
    (hText : path.text.toList = other.text.toList ++ '/' :: rest)
    (hOther : other.text.toList ≠ []) : path.head = other.head := by
  rw [head, head, hText]
  cases hChars : other.text.toList with
  | nil => exact absurd hChars hOther
  | cons c more => cases more <;> split <;> split <;> simp_all

/-! Leading parts -/

/-- A path up to some of its parts. -/
def upTo (path : Path) (kept : List (List Char)) : Path :=
  ⟨String.ofList (path.head ++ Occurrence.joinFields '/' kept)⟩

/-- A path without the idle parts at its end. -/
def tidy (path : Path) : Path := path.upTo path.partsBackward.reverse

theorem text_upTo (path : Path) (kept : List (List Char)) :
    (path.upTo kept).text.toList = path.head ++ Occurrence.joinFields '/' kept :=
  String.toList_ofList

/-- A path that is cut behind some of its parts keeps its head. -/
theorem head_upTo {path : Path} {kept : List (List Char)} (hKept : kept <+: path.parts) :
    (path.upTo kept).head = path.head := by
  obtain ⟨more, hParts⟩ := hKept
  have hText := path.text_eq
  by_cases hNone : kept = []
  · rw [head, text_upTo, hNone]
    rcases path.head_cases with hHead | hHead | hHead <;> rw [hHead] <;> rfl
  by_cases hMore : more = []
  · rw [hMore, List.append_nil] at hParts
    rw [upTo, hParts, ← hText, String.ofList_toList]
  · rw [← hParts, Occurrence.joinFields_append '/' hNone hMore, ← List.append_assoc,
      ← text_upTo] at hText
    refine (head_of_append_slash hText ?_).symm
    intro hEmpty
    -- the path would begin with a slash, which is kept as its head
    rw [hEmpty, List.nil_append] at hText
    rw [text_upTo, head, hText] at hEmpty
    cases hEmpty

theorem partsBackward_upTo {path : Path} {kept : List (List Char)} (hKept : kept <+: path.parts) :
    (path.upTo kept).partsBackward = kept.reverse.dropWhile isIdle := by
  have hFree : ∀ part ∈ kept, '/' ∉ part := fun part hPart =>
    Occurrence.not_mem_of_mem_fields (hKept.subset hPart)
  rw [partsBackward, parts, head_upTo hKept, text_upTo, List.drop_left]
  cases kept with
  | nil => rfl
  | cons part kept => rw [Occurrence.fields_joinFields (List.cons_ne_nil _ _) hFree]

theorem tidy_upTo {path : Path} {kept : List (List Char)} (hKept : kept <+: path.parts) :
    (path.upTo kept).tidy = path.upTo (kept.reverse.dropWhile isIdle).reverse := by
  rw [tidy, upTo, head_upTo hKept, partsBackward_upTo hKept, ← upTo]

/-- The folder of a path ends with no idle part. -/
theorem tidy_parent (path : Path) : path.parent.tidy = path.parent := by
  have hKept : ((path.partsBackward.drop 1).dropWhile isIdle).reverse <+: path.parts := by
    rw [← List.reverse_suffix, List.reverse_reverse, partsBackward]
    exact (List.dropWhile_suffix _).trans ((List.drop_suffix _ _).trans (List.dropWhile_suffix _))
  have hTidy := tidy_upTo hKept
  rwa [List.reverse_reverse, List.dropWhile_idempotent] at hTidy

/-! What is joined to a path -/

section

variable {path : Path} {part : String}

theorem head_join_of_ne (hText : path.text ≠ "") (hPart : '/' ∉ part.toList) :
    (path.join part).head = path.head := by
  rcases text_join_of_ne hText hPart with ⟨init, hInit, hJoin⟩ | hJoin
  · by_cases hNone : init = []
    · rw [head, head, hJoin, hInit, hNone]
      rfl
    · have hChars : (String.ofList init).toList = init := String.toList_ofList
      have hHead {other : Path} {rest : List Char}
          (hOther : other.text.toList = init ++ '/' :: rest) :
          other.head = head ⟨String.ofList init⟩ :=
        head_of_append_slash (by rw [hChars, hOther]) (by rwa [hChars])
      rw [hHead hJoin, hHead hInit]
  · exact head_of_append_slash hJoin (mt String.toList_eq_nil_iff.mp hText)

/-- What is joined to a path comes behind its parts, or in place of an empty last one. -/
theorem parts_join_of_ne (hText : path.text ≠ "") (hPart : '/' ∉ part.toList) :
    ∃ before tail, (path.join part).parts = before ++ [part.toList] ∧
      path.parts = before ++ tail ∧ (tail = [] ∨ tail = [[]]) := by
  rw [parts, head_join_of_ne hText hPart]
  rcases text_join_of_ne hText hPart with ⟨init, hInit, hJoin⟩ | hJoin
  · rw [parts, hJoin, hInit]
    by_cases hLong : path.head.length ≤ init.length
    · refine ⟨Occurrence.fields '/' (init.drop path.head.length), [[]], ?_, ?_, .inr rfl⟩
      · rw [List.drop_append_of_le_length hLong, Occurrence.fields_append_of_not_mem _ hPart]
      · rw [List.drop_append_of_le_length hLong,
          Occurrence.fields_append_of_not_mem _ List.not_mem_nil]
    · -- the path is the root
      have hOne := path.length_head_le
      obtain rfl : init = [] := List.length_eq_zero_iff.mp (by omega)
      have hHead : path.head.length = 1 := by
        have : ¬ path.head.length ≤ 0 := hLong
        omega
      rw [hHead]
      exact ⟨[], [[]], Occurrence.fields_of_not_mem hPart, rfl, .inr rfl⟩
  · refine ⟨path.parts, [], ?_, (List.append_nil _).symm, .inl rfl⟩
    rw [hJoin, path.text_eq, List.append_assoc, List.drop_left,
      Occurrence.fields_append_of_not_mem _ hPart, parts, Occurrence.joinFields_fields]

end

theorem join_empty (part : String) : join ⟨""⟩ part = ⟨part⟩ := by
  rw [join]
  split
  · rfl
  · simp

theorem parts_single {part : String} (hSlash : '/' ∉ part.toList) (hDot : part.toList ≠ ['.']) :
    parts ⟨part⟩ = [part.toList] := by
  rw [parts, head_eq_nil hSlash hDot]
  exact Occurrence.fields_of_not_mem hSlash

/-- What a name is joined to is, but for idle parts at its end, the folder of what comes out. -/
theorem parent_join (path : Path) (name : Name) : (path.join name.text).parent = path.tidy := by
  by_cases hText : path.text = ""
  · obtain rfl : path = ⟨""⟩ := by rw [← hText]
    rw [join_empty, parent, partsBackward, parts_single name.slash_not_mem name.ne_dot,
      head_eq_nil name.slash_not_mem name.ne_dot]
    simp [isIdle_name]
    rfl
  · obtain ⟨before, tail, hJoin, hParts, hTail⟩ := parts_join_of_ne hText name.slash_not_mem
    have hIdle : ∀ part ∈ tail.reverse, isIdle part = true := by
      rcases hTail with rfl | rfl <;> simp [isIdle]
    have hBackward : path.partsBackward = before.reverse.dropWhile isIdle := by
      rw [partsBackward, hParts, List.reverse_append, List.dropWhile_append_of_pos hIdle]
    rw [parent, partsBackward, head_join_of_ne hText name.slash_not_mem, hJoin,
      List.reverse_append, List.reverse_singleton, List.singleton_append,
      List.dropWhile_cons_of_neg (by simp [isIdle_name]), tidy, upTo, hBackward]
    rfl

/-- Joining adds the name that is joined, or none if the part is idle. -/
theorem names_join (path : Path) {part : String} (hPart : '/' ∉ part.toList) :
    (path.join part).names =
      path.names ++ if isIdle part.toList then [] else [part.toList] := by
  by_cases hText : path.text = ""
  · obtain rfl : path = ⟨""⟩ := by rw [← hText]
    rw [join_empty]
    by_cases hDot : part.toList = ['.']
    · obtain rfl : part = "." := String.toList_inj.mp hDot
      decide
    · rw [names, parts_single hPart hDot, List.filter_singleton]
      cases isIdle part.toList <;> rfl
  · obtain ⟨before, tail, hJoin, hParts, hTail⟩ := parts_join_of_ne hText hPart
    have hIdle : tail.filter (fun part => !isIdle part) = [] := by
      rcases hTail with rfl | rfl <;> rfl
    rw [names, names, hJoin, hParts, List.filter_append, List.filter_append, hIdle,
      List.append_nil, List.filter_singleton]
    cases isIdle part.toList <;> rfl

end Stencil.Path
