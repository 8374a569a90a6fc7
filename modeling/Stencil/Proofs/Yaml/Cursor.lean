import Mathlib.Data.List.TakeWhile
import Stencil.Yaml.Render

/-! Where lines and their contents begin: the position behind a text, the spaces in front of a line,
and what may stand behind a block of lines. -/

namespace Stencil.Yaml

open Render (spaces)

namespace Mark

/-- The position behind a text without carriage returns. -/
def past (mark : Mark) (text : List Char) : Mark :=
  text.foldl (fun mark c => if isBreak c then mark.nextLine 1 else mark.along 1) mark

@[simp] theorem past_nil (mark : Mark) : mark.past [] = mark := rfl

/-- The position behind two texts is reached by passing one and then the other. -/
theorem past_append (mark : Mark) (text text' : List Char) :
    mark.past (text ++ text') = (mark.past text).past text' := List.foldl_append

theorem past_break (mark : Mark) {c : Char} (text : List Char) (hBreak : isBreak c = true) :
    mark.past (c :: text) = (mark.nextLine 1).past text := by simp [past, hBreak]

theorem past_along (mark : Mark) {c : Char} (text : List Char) (hBreak : isBreak c = false) :
    mark.past (c :: text) = (mark.along 1).past text := by simp [past, hBreak]

theorem along_along (mark : Mark) (count count' : Nat) :
    (mark.along count).along count' = mark.along (count + count') := by
  simp [along, Nat.add_assoc]

/-- Within one line every character takes one column. -/
theorem past_line (mark : Mark) {text : List Char} (hLine : ∀ c ∈ text, isBreak c = false) :
    mark.past text = mark.along text.length := by
  induction text generalizing mark with
  | nil => rfl
  | cons c text ih =>
      obtain ⟨hHere, hRest⟩ := List.forall_mem_cons.mp hLine
      rw [past_along mark text hHere, ih _ hRest, along_along, List.length_cons, Nat.add_comm]

@[simp] theorem column_along (mark : Mark) (count : Nat) :
    (mark.along count).column = mark.column + count := rfl

@[simp] theorem column_nextLine (mark : Mark) (count : Nat) : (mark.nextLine count).column = 0 :=
  rfl

/-- Spaces move along the line by their number. -/
@[simp] theorem past_spaces (mark : Mark) (count : Nat) :
    mark.past (spaces count) = mark.along count := by
  rw [past_line mark (fun c hMem => by rw [List.eq_of_mem_replicate hMem]; rfl), spaces,
    List.length_replicate]

/-- Behind the end of a line and some spaces. -/
theorem column_past_line (mark : Mark) (text : List Char) (count : Nat) :
    (mark.past (text ++ '\n' :: spaces count)).column = count := by
  rw [past_append, past_break _ _ rfl, past_spaces]
  simp

end Mark

namespace Cursor

variable {mark : Mark} {rest : List Char} {c : Char}

/-- A break that is no carriage return ends a line by itself, with nothing to wait for. -/
theorem lineEnd?_break (hBreak : isBreak c = true) (hReturn : c ≠ '\r') :
    lineEnd? ⟨c :: rest, mark⟩ = some (breakChar c, ⟨rest, mark.nextLine 1⟩) := by
  unfold lineEnd?
  split
  · next hText => exact absurd (List.cons.inj hText).1 hReturn
  · next hText =>
      obtain ⟨rfl, rfl⟩ := List.cons.inj hText
      rw [if_pos hBreak]
  · next hText => cases hText

/-- Within a line there is no end to take. -/
theorem lineEnd?_of_not_isBreak (hBreak : isBreak c = false) : lineEnd? ⟨c :: rest, mark⟩ = none := by
  unfold lineEnd?
  split
  · next hText =>
      rw [(List.cons.inj hText).1] at hBreak
      cases hBreak
  · next hText =>
      obtain ⟨rfl, rfl⟩ := List.cons.inj hText
      rw [if_neg (by simp [hBreak])]
  · next hText => cases hText

end Cursor

/-- How many spaces a text begins with. -/
def margin (lines : List Char) : Nat := (lines.takeWhile (· == ' ')).length

/-- What stands behind the spaces that a text begins with. -/
def content (lines : List Char) : List Char := lines.dropWhile (· == ' ')

@[simp] theorem margin_nil : margin [] = 0 := rfl

@[simp] theorem content_nil : content [] = [] := rfl

/-- Lines are the spaces in front of them and what follows these. -/
theorem spaces_append_content (lines : List Char) :
    spaces (margin lines) ++ content lines = lines := by
  have hSpaces : lines.takeWhile (· == ' ') = spaces (margin lines) :=
    List.eq_replicate_of_mem fun c hMem => by simpa using List.mem_takeWhile_imp hMem
  rw [← hSpaces]
  exact List.takeWhile_append_dropWhile

theorem length_content_le (lines : List Char) : (content lines).length ≤ lines.length :=
  List.length_dropWhile_le _ _

theorem margin_space (lines : List Char) : margin (' ' :: lines) = margin lines + 1 := by
  simp [margin]

theorem content_space (lines : List Char) : content (' ' :: lines) = content lines := by
  simp [content]

theorem margin_of_ne {c : Char} (hSpace : c ≠ ' ') (lines : List Char) :
    margin (c :: lines) = 0 := by simp [margin, hSpace]

theorem content_of_ne {c : Char} (hSpace : c ≠ ' ') (lines : List Char) :
    content (c :: lines) = c :: lines := by simp [content, hSpace]

/-- Further spaces in front widen the margin by their number. -/
theorem margin_spaces (count : Nat) (lines : List Char) :
    margin (spaces count ++ lines) = count + margin lines := by
  induction count with
  | zero => simp [spaces]
  | succ count ih =>
      show margin (' ' :: (spaces count ++ lines)) = _
      rw [margin_space, ih]
      omega

/-- Further spaces in front leave what follows them as it is. -/
theorem content_spaces (count : Nat) (lines : List Char) :
    content (spaces count ++ lines) = content lines := by
  induction count with
  | zero => rfl
  | succ count ih => rwa [← content_space] at ih

/-- Whether a text is at its end or begins with a character that is passed over nowhere. -/
def isSolid : List Char → Bool
  | [] => true
  | c :: _ => !(isBlank c || isBreak c || c == '#' || c == '\uFEFF')

/-- Where there is something to read, its first character neither is a gap nor begins a comment. -/
theorem isSolid_cons {c : Char} {text : List Char} (hSolid : isSolid (c :: text) = true) :
    isBlank c = false ∧ isBreak c = false ∧ c ≠ '#' ∧ c ≠ '\uFEFF' := by
  simpa [isSolid, and_assoc] using hSolid

theorem ne_space_of_not_isBlank {c : Char} (hBlank : isBlank c = false) : c ≠ ' ' := by
  rintro rfl
  cases hBlank

/-- A carriage return is a break. Those that hold none need no care for pairs of breaks. -/
theorem ne_return_of_not_isBreak {c : Char} (hBreak : isBreak c = false) : c ≠ '\r' := by
  rintro rfl
  cases hBreak

/-- There is nothing to skip where there is something to read. -/
theorem content_of_isSolid {text : List Char} (hSolid : isSolid text = true) :
    content text = text := by
  cases text with
  | nil => rfl
  | cons c text => exact content_of_ne (ne_space_of_not_isBlank (isSolid_cons hSolid).1) text

/-- No spaces stand in front where there is something to read at once. -/
theorem margin_of_isSolid {text : List Char} (hSolid : isSolid text = true) : margin text = 0 := by
  cases text with
  | nil => rfl
  | cons c text => exact margin_of_ne (ne_space_of_not_isBlank (isSolid_cons hSolid).1) text

/-- What may stand behind lines of which some begin at `column`: nothing, or a line that begins
there or left of there. -/
structure Follows (column : Nat) (lines : List Char) : Prop where
  margin_le : margin lines ≤ column
  solid : isSolid (content lines) = true

namespace Follows

variable {column : Nat} {lines : List Char}

theorem nil : Follows column [] := ⟨Nat.zero_le _, rfl⟩

/-- Lines that may follow a block may also follow one that stands further right. -/
theorem mono {wider : Nat} (hFollows : Follows column lines) (hLe : column ≤ wider) :
    Follows wider lines := ⟨Nat.le_trans hFollows.margin_le hLe, hFollows.solid⟩

/-- Lines with something to read may follow a block at their own column. -/
theorem of_isSolid {text : List Char} (hSolid : isSolid text = true) :
    Follows column (spaces column ++ text) := by
  constructor
  · exact (margin_spaces column text).trans_le (by rw [margin_of_isSolid hSolid, Nat.add_zero])
  · rwa [content_spaces, content_of_isSolid hSolid]

end Follows

end Stencil.Yaml
