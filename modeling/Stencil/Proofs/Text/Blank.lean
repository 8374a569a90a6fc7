import Mathlib.Data.List.TakeWhile
import Stencil.Text.Blank

/-! Trimming. What is trimmed off at either end is blank, and what is left neither begins nor ends
with a blank. -/

namespace Stencil.Text

theorem exists_trim (text : List Char) :
    ∃ front back, text = front ++ trim text ++ back ∧ (∀ c ∈ front, isBlank c = true) ∧
      ∀ c ∈ back, isBlank c = true := by
  refine ⟨text.takeWhile isBlank, ((trimStart text).reverse.takeWhile isBlank).reverse, ?_,
    fun c => List.mem_takeWhile_imp, fun c hMem =>
      List.mem_takeWhile_imp (List.mem_reverse.mp hMem)⟩
  rw [trim, trimEnd, List.append_assoc, ← List.reverse_append, List.takeWhile_append_dropWhile,
    List.reverse_reverse, trimStart, List.takeWhile_append_dropWhile]

section Stop

variable {α : Type} {p : α → Bool} {before after : List α} (hBefore : ∀ c ∈ before, p c = true)
  (hAfter : ∀ c ∈ after.head?, p c = false)

include hBefore hAfter

/-- Elements are taken up to the first one that does not pass. -/
theorem takeWhile_append_of_stop : (before ++ after).takeWhile p = before := by
  rw [List.takeWhile_append_of_pos hBefore]
  cases after with
  | nil => exact List.append_nil before
  | cons c rest => rw [List.takeWhile_cons_of_neg (by simp [hAfter c rfl]), List.append_nil]

theorem dropWhile_append_of_stop : (before ++ after).dropWhile p = after := by
  rw [List.dropWhile_append_of_pos hBefore]
  cases after with
  | nil => rfl
  | cons c rest => exact List.dropWhile_cons_of_neg (by simp [hAfter c rfl])

end Stop

/-- Blanks around a text that neither begins nor ends with one are trimmed off. -/
theorem trim_around {front text back : List Char} (hFront : ∀ c ∈ front, isBlank c = true)
    (hBack : ∀ c ∈ back, isBlank c = true) (hHead : ∀ c ∈ text.head?, isBlank c = false)
    (hLast : ∀ c ∈ text.getLast?, isBlank c = false) : trim (front ++ text ++ back) = text := by
  cases text with
  | nil =>
      have hBlank : ∀ c ∈ front ++ back, isBlank c = true :=
        fun c hMem => (List.mem_append.mp hMem).elim (hFront c) (hBack c)
      rw [List.append_nil, trim, trimStart, List.dropWhile_eq_nil_iff.mpr hBlank]
      rfl
  | cons c rest =>
      have hBehind : ∀ d ∈ back.reverse, isBlank d = true :=
        fun d hMem => hBack d (List.mem_reverse.mp hMem)
      have hStart : trimStart (front ++ (c :: rest) ++ back) = c :: rest ++ back := by
        rw [trimStart, List.append_assoc]
        exact dropWhile_append_of_stop hFront hHead
      rw [trim, hStart, trimEnd, List.reverse_append, dropWhile_append_of_stop hBehind,
        List.reverse_reverse]
      rwa [List.head?_reverse]

theorem trim_of_solid {text : List Char} (hText : ∀ c ∈ text, isBlank c = false) :
    trim text = text := by
  simpa using trim_around (List.forall_mem_nil _) (List.forall_mem_nil _)
    (fun c hHead => hText c (List.mem_of_mem_head? hHead))
    (fun c hLast => hText c (List.mem_of_getLast? hLast))

/-- No character that ASCII shows is blank. -/
theorem isBlank_of_visible {c : Char} (hLow : 0x20 < c.toNat) (hHigh : c.toNat < 0x7F) :
    isBlank c = false := by
  simp [isBlank]
  omega

/-- The codes of all blanks. -/
def blankCodes : List Nat :=
  [9, 10, 11, 12, 13, 0x20, 0x85, 0xA0, 0x1680, 0x2000, 0x2001, 0x2002, 0x2003, 0x2004, 0x2005,
   0x2006, 0x2007, 0x2008, 0x2009, 0x200A, 0x2028, 0x2029, 0x202F, 0x205F, 0x3000]

/-- What holds of twenty-five characters holds of any blank. -/
theorem forall_blank {p : Char → Prop} (hCodes : ∀ code ∈ blankCodes, p (Char.ofNat code)) (c : Char)
    (hBlank : isBlank c = true) : p c := by
  rw [← Char.ofNat_toNat c]
  apply hCodes
  simp [isBlank] at hBlank
  simp [blankCodes]
  omega

end Stencil.Text
