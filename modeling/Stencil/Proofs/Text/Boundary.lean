import Stencil.Proofs.Text.Decoding

/-! Where characters begin. A byte that goes on with a character begins none, so an encoded text is
found in another one only at the boundaries of characters. What precedes it and what follows it are
encoded texts as well. -/

namespace Stencil.Text.Utf8

/-- A character begins with a byte that continues none, and goes on with bytes that do. -/
theorem exists_lead (c : Char) :
    ∃ lead tails, String.utf8EncodeChar c = lead :: tails ∧ isTail lead = false ∧
      ∀ b ∈ tails, isTail b = true := by
  have hBound : c.val.toNat < 0x110000 := by have := c.valid; omega
  have hLead {b : UInt8} (hByte : b.toNat < 128 ∨ 192 ≤ b.toNat) : isTail b = false := by
    rw [Bool.eq_false_iff]
    intro hTail
    have := toNat_of_isTail hTail
    omega
  have hTail (k : Nat) {tails : Bytes} (hTails : ∀ b ∈ tails, isTail b = true) :
      ∀ b ∈ UInt8.ofNat (k % 64 + 0x80) :: tails, isTail b = true :=
    List.forall_mem_cons.mpr ⟨isTail_of_toNat (toNat_ofNat (by omega)), hTails⟩
  have hNone : ∀ b ∈ ([] : Bytes), isTail b = true := List.forall_mem_nil _
  simp only [String.utf8EncodeChar]
  generalize c.val.toNat = n at *
  split
  · refine ⟨_, _, rfl, hLead ?_, hNone⟩
    rw [toNat_ofNat (by omega)]
    omega
  split
  · refine ⟨_, _, rfl, hLead ?_, hTail _ hNone⟩
    rw [toNat_ofNat (by omega)]
    omega
  split
  · refine ⟨_, _, rfl, hLead ?_, hTail _ (hTail _ hNone)⟩
    rw [toNat_ofNat (by omega)]
    omega
  · refine ⟨_, _, rfl, hLead ?_, hTail _ (hTail _ (hTail _ hNone))⟩
    rw [toNat_ofNat (by omega)]
    omega

theorem encodeChars_cons (c : Char) (text : List Char) :
    encodeChars (c :: text) = String.utf8EncodeChar c ++ encodeChars text := rfl

theorem encodeChars_append (text other : List Char) :
    encodeChars (text ++ other) = encodeChars text ++ encodeChars other :=
  List.flatMap_append

/-- A byte that continues no character stands at a boundary. -/
theorem exists_cut_of_lead {text : List Char} {before after : Bytes} {b : UInt8}
    (hText : encodeChars text = before ++ b :: after) (hLead : isTail b = false) :
    ∃ front back, text = front ++ back ∧ encodeChars front = before ∧
      encodeChars back = b :: after := by
  induction text generalizing before with
  | nil => exact absurd hText.symm (by simp [encodeChars])
  | cons c text ih =>
      cases before with
      | nil => exact ⟨[], c :: text, rfl, rfl, hText⟩
      | cons a before =>
          obtain ⟨lead, tails, hChar, -, hTails⟩ := exists_lead c
          rw [encodeChars_cons, List.append_eq_append_iff] at hText
          rcases hText with ⟨more, hBefore, hRest⟩ | ⟨more, hBytes, hRest⟩
          · obtain ⟨front, back, rfl, rfl, hBack⟩ := ih hRest
            exact ⟨c :: front, back, rfl, by rw [encodeChars_cons, hBefore], hBack⟩
          · cases more with
            | nil =>
                refine ⟨[c], text, rfl, ?_, hRest.symm⟩
                rw [List.append_nil] at hBytes
                rw [encodeChars_cons, hBytes]
                exact List.append_nil _
            | cons d more =>
                -- the byte would be one of those that go on with `c`
                obtain rfl : b = d := (List.cons.inj hRest).1
                rw [hChar, List.cons_append, List.cons.injEq] at hBytes
                have hMem : b ∈ tails := hBytes.2 ▸ List.mem_append_right before List.mem_cons_self
                rw [hTails b hMem] at hLead
                cases hLead

/-- No character is encoded as the beginning of another one. -/
theorem utf8EncodeChar_append_inj {c d : Char} {rest rest' : Bytes}
    (hBytes : String.utf8EncodeChar c ++ rest = String.utf8EncodeChar d ++ rest') :
    c = d ∧ rest = rest' := by
  obtain ⟨lead, tail, hC, hRead⟩ := readChar_utf8EncodeChar c rest
  obtain ⟨lead', tail', hD, hRead'⟩ := readChar_utf8EncodeChar d rest'
  obtain ⟨rfl, rfl⟩ := List.cons.inj (hC.symm.trans (hBytes.trans hD))
  obtain ⟨hChar, hRest⟩ := Prod.mk.inj (hRead.symm.trans hRead')
  exact ⟨Option.some.inj hChar, hRest⟩

/-- An encoded text ends at a boundary. -/
theorem exists_back_of_front {text front : List Char} {after : Bytes}
    (hText : encodeChars text = encodeChars front ++ after) :
    ∃ back, text = front ++ back ∧ encodeChars back = after := by
  induction front generalizing text with
  | nil => exact ⟨text, rfl, hText⟩
  | cons c front ih =>
      rw [encodeChars_cons, List.append_assoc] at hText
      cases text with
      | nil =>
          obtain ⟨lead, tails, hChar, -, -⟩ := exists_lead c
          rw [hChar] at hText
          cases hText
      | cons d text =>
          rw [encodeChars_cons] at hText
          obtain ⟨rfl, hRest⟩ := utf8EncodeChar_append_inj hText
          obtain ⟨back, rfl, hBack⟩ := ih hRest
          exact ⟨back, rfl, hBack⟩

/-- A text ends with another one as it does byte by byte. -/
theorem encode_suffix_iff {text suffix : String} :
    encode suffix <:+ encode text ↔ ∃ stem, text = stem ++ suffix := by
  constructor
  · rintro ⟨before, hBefore⟩
    cases hChars : suffix.toList with
    | nil =>
        refine ⟨text, ?_⟩
        rw [String.toList_eq_nil_iff.mp hChars, String.append_empty]
    | cons c rest =>
        obtain ⟨lead, tails, hChar, hLead, -⟩ := exists_lead c
        have hSuffix : encodeChars suffix.toList = lead :: (tails ++ encodeChars rest) := by
          rw [hChars, encodeChars_cons, hChar, List.cons_append]
        have hText : encodeChars text.toList = before ++ encodeChars suffix.toList := hBefore.symm
        rw [hSuffix] at hText
        obtain ⟨front, back, hParts, -, hBack⟩ := exists_cut_of_lead hText hLead
        have hBack' : encode (String.ofList back) = encode suffix := by
          rw [encode, encode, String.toList_ofList, hBack, hSuffix]
        refine ⟨String.ofList front, ?_⟩
        rw [← encode_injective hBack', ← String.ofList_append, ← hParts, String.ofList_toList]
  · rintro ⟨stem, rfl⟩
    exact ⟨encode stem, (encode_append stem suffix).symm⟩

theorem isValid_iff {bytes : Bytes} :
    isValid bytes = true ↔ ∃ text, encodeChars text = bytes := by
  rw [isValid, Option.isSome_iff_exists]
  constructor
  · rintro ⟨text, hText⟩
    exact ⟨text, encodeChars_of_decodeChars? hText⟩
  · rintro ⟨text, rfl⟩
    exact ⟨text, decodeChars?_encodeChars text⟩

theorem isValid_encode (text : String) : isValid (encode text) = true :=
  isValid_iff.mpr ⟨text.toList, rfl⟩

theorem isValid_append {bytes other : Bytes} (hBytes : isValid bytes = true)
    (hOther : isValid other = true) : isValid (bytes ++ other) = true := by
  obtain ⟨text, rfl⟩ := isValid_iff.mp hBytes
  obtain ⟨text', rfl⟩ := isValid_iff.mp hOther
  exact isValid_iff.mpr ⟨text ++ text', encodeChars_append text text'⟩

/-- What stands around an encoded text in valid bytes is valid. -/
theorem isValid_around {needle : String} (hNeedle : needle ≠ "") {before after : Bytes}
    (hBytes : isValid (before ++ encode needle ++ after) = true) :
    isValid before = true ∧ isValid after = true := by
  obtain ⟨text, hText⟩ := isValid_iff.mp hBytes
  obtain ⟨c, rest, hChars⟩ := List.exists_cons_of_ne_nil (mt String.toList_eq_nil_iff.mp hNeedle)
  obtain ⟨lead, tails, hChar, hLead, -⟩ := exists_lead c
  have hNeedleBytes : encode needle = lead :: (tails ++ encodeChars rest) := by
    rw [encode, hChars, encodeChars_cons, hChar, List.cons_append]
  rw [List.append_assoc, hNeedleBytes, List.cons_append] at hText
  obtain ⟨front, back, -, hFront, hBack⟩ := exists_cut_of_lead hText hLead
  rw [← List.cons_append, ← hNeedleBytes, encode] at hBack
  obtain ⟨more, -, hMore⟩ := exists_back_of_front hBack
  exact ⟨isValid_iff.mpr ⟨front, hFront⟩, isValid_iff.mpr ⟨more, hMore⟩⟩

end Stencil.Text.Utf8
