import Stencil.Proofs.Text.Utf8

/-! Reading back what was encoded, and encoding what was read. The bytes of a character are read as
that character, whatever follows them, and no other bytes are. So an encoded text is valid and
gives the text, and valid bytes are those that encode a text. -/

namespace Stencil.Text.Utf8

/-- A byte given by a number that fits. -/
theorem toNat_ofNat {n : Nat} (hByte : n < 256) : (UInt8.ofNat n).toNat = n := by
  rw [UInt8.toNat_ofNat']
  exact Nat.mod_eq_of_lt hByte

/-- The form that a leading byte announces, told by the number of the byte. -/
theorem form?_eq (lead : UInt8) :
    form? lead =
      if lead.toNat < 194 then none
      else if lead.toNat < 224 then some ⟨1, 0x80, 0xBF⟩
      else if lead.toNat = 224 then some ⟨2, 0xA0, 0xBF⟩
      else if lead.toNat = 237 then some ⟨2, 0x80, 0x9F⟩
      else if lead.toNat < 240 then some ⟨2, 0x80, 0xBF⟩
      else if lead.toNat = 240 then some ⟨3, 0x90, 0xBF⟩
      else if lead.toNat < 244 then some ⟨3, 0x80, 0xBF⟩
      else if lead.toNat = 244 then some ⟨3, 0x80, 0x8F⟩
      else none := by
  simp only [form?, UInt8.lt_iff_toNat_lt, ← UInt8.toNat_inj, UInt8.reduceToNat]

/-- A second byte is in the range that a form asks for. -/
def Form.Allows (form : Form) (b : UInt8) : Prop :=
  form.low.toNat ≤ b.toNat ∧ b.toNat ≤ form.high.toNat

theorem Form.Allows.inRange {form : Form} {b : UInt8} (hAllows : form.Allows b) :
    (b < form.low || form.high < b) = false := by
  rw [Bool.or_eq_false_iff, decide_eq_false_iff_not, decide_eq_false_iff_not,
    UInt8.lt_iff_toNat_lt, UInt8.lt_iff_toNat_lt, Nat.not_lt, Nat.not_lt]
  exact hAllows

section Tails

variable {n : Nat} {lead b c d : UInt8} (rest : Bytes)

theorem not_ascii (lead : UInt8) (hLead : 128 ≤ lead.toNat) : ¬ lead < 0x80 := by
  rw [UInt8.lt_iff_toNat_lt]
  exact Nat.not_lt.mpr hLead

theorem isTail_of_toNat (hTail : b.toNat = n % 64 + 0x80) : isTail b = true := by
  have hBelow := Nat.mod_lt n (show 64 > 0 by decide)
  rw [isTail, Bool.and_eq_true, decide_eq_true_eq, decide_eq_true_eq, UInt8.le_iff_toNat_le,
    UInt8.le_iff_toNat_le, hTail]
  change 128 ≤ n % 64 + 128 ∧ n % 64 + 128 ≤ 191
  omega

theorem tailBits_of_toNat (hTail : b.toNat = n % 64 + 0x80) : tailBits b = n % 64 := by
  rw [tailBits, hTail]
  omega

/-- One byte below 128 is a character. -/
theorem readChar_ascii (hHigh : n < 0x80) (hLead : lead.toNat = n) :
    readChar lead rest = (some (Char.ofNat n), rest) := by
  have hAscii : lead < 0x80 := by
    rw [UInt8.lt_iff_toNat_lt, hLead]
    exact hHigh
  unfold readChar
  rw [if_pos hAscii, hLead]

/-- Two bytes are read as the character that they encode, and the rest is left. -/
theorem readChar_two (hLow : 0x80 ≤ n) (hHigh : n < 0x800)
    (hLead : lead.toNat = n / 64 % 32 + 0xC0) (hB : b.toNat = n % 64 + 0x80) :
    readChar lead (b :: rest) = (some (Char.ofNat n), rest) := by
  have hForm : form? lead = some ⟨1, 0x80, 0xBF⟩ := by
    rw [form?_eq, if_neg (by omega), if_pos (by omega)]
  have hAllows : Form.Allows ⟨1, 0x80, 0xBF⟩ b := by
    change 128 ≤ b.toNat ∧ b.toNat ≤ 191
    omega
  have hValue : lead.toNat % 32 * 64 + tailBits b = n := by
    rw [hLead, tailBits_of_toNat hB]
    omega
  simp only [readChar, not_ascii lead (by omega), hForm, hAllows.inRange, hValue,
    Bool.false_eq_true, if_false, if_true]

/-- The forms of three bytes leave out overlong ones and surrogates. -/
theorem exists_form_three (hLow : 0x800 ≤ n) (hHigh : n < 0x10000)
    (hScalar : n < 0xD800 ∨ 0xDFFF < n) (hLead : lead.toNat = n / 4096 % 16 + 0xE0)
    (hB : b.toNat = n / 64 % 64 + 0x80) :
    ∃ form, form? lead = some form ∧ form.tails = 2 ∧ form.Allows b := by
  simp only [Form.Allows]
  rw [form?_eq, if_neg (by omega), if_neg (by omega)]
  by_cases hFirst : lead.toNat = 224
  · exact ⟨_, if_pos hFirst, rfl, by simp only [UInt8.reduceToNat]; omega⟩
  rw [if_neg hFirst]
  by_cases hSurrogate : lead.toNat = 237
  · exact ⟨_, if_pos hSurrogate, rfl, by simp only [UInt8.reduceToNat]; omega⟩
  rw [if_neg hSurrogate]
  exact ⟨_, if_pos (by omega), rfl, by simp only [UInt8.reduceToNat]; omega⟩

theorem readChar_three (hLow : 0x800 ≤ n) (hHigh : n < 0x10000)
    (hScalar : n < 0xD800 ∨ 0xDFFF < n) (hLead : lead.toNat = n / 4096 % 16 + 0xE0)
    (hB : b.toNat = n / 64 % 64 + 0x80) (hC : c.toNat = n % 64 + 0x80) :
    readChar lead (b :: c :: rest) = (some (Char.ofNat n), rest) := by
  obtain ⟨form, hForm, hTails, hAllows⟩ := exists_form_three hLow hHigh hScalar hLead hB
  have hValue : (lead.toNat % 16 * 64 + tailBits b) * 64 + tailBits c = n := by
    rw [hLead, tailBits_of_toNat hB, tailBits_of_toNat hC]
    omega
  have hOne : ¬ 2 = 1 := by decide
  simp only [readChar, not_ascii lead (by omega), hForm, hAllows.inRange, hTails,
    isTail_of_toNat hC, hValue, hOne, Bool.false_eq_true, Bool.not_true, if_false, if_true]

/-- The forms of four bytes leave out overlong ones and what is past the last character. -/
theorem exists_form_four (hLow : 0x10000 ≤ n) (hHigh : n < 0x110000)
    (hLead : lead.toNat = n / 262144 % 8 + 0xF0) (hB : b.toNat = n / 4096 % 64 + 0x80) :
    ∃ form, form? lead = some form ∧ form.tails = 3 ∧ form.Allows b := by
  simp only [Form.Allows]
  rw [form?_eq, if_neg (by omega), if_neg (by omega), if_neg (by omega), if_neg (by omega),
    if_neg (by omega)]
  by_cases hFirst : lead.toNat = 240
  · exact ⟨_, if_pos hFirst, rfl, by simp only [UInt8.reduceToNat]; omega⟩
  rw [if_neg hFirst]
  by_cases hLater : lead.toNat < 244
  · exact ⟨_, if_pos hLater, rfl, by simp only [UInt8.reduceToNat]; omega⟩
  rw [if_neg hLater]
  exact ⟨_, if_pos (by omega), rfl, by simp only [UInt8.reduceToNat]; omega⟩

theorem readChar_four (hLow : 0x10000 ≤ n) (hHigh : n < 0x110000)
    (hLead : lead.toNat = n / 262144 % 8 + 0xF0) (hB : b.toNat = n / 4096 % 64 + 0x80)
    (hC : c.toNat = n / 64 % 64 + 0x80) (hD : d.toNat = n % 64 + 0x80) :
    readChar lead (b :: c :: d :: rest) = (some (Char.ofNat n), rest) := by
  obtain ⟨form, hForm, hTails, hAllows⟩ := exists_form_four hLow hHigh hLead hB
  have hValue : ((lead.toNat % 8 * 64 + tailBits b) * 64 + tailBits c) * 64 + tailBits d = n := by
    rw [hLead, tailBits_of_toNat hB, tailBits_of_toNat hC, tailBits_of_toNat hD]
    omega
  have hOne : ¬ 3 = 1 := by decide
  have hTwo : ¬ 3 = 2 := by decide
  simp only [readChar, not_ascii lead (by omega), hForm, hAllows.inRange, hTails,
    isTail_of_toNat hC, isTail_of_toNat hD, hValue, hOne, hTwo, Bool.false_eq_true, Bool.not_true,
    if_false]

end Tails

/-- The bytes of a character are read as that character, whatever follows. -/
theorem readChar_utf8EncodeChar (c : Char) (rest : Bytes) :
    ∃ lead tail, String.utf8EncodeChar c ++ rest = lead :: tail ∧
      readChar lead tail = (some c, rest) := by
  have hChar : Char.ofNat c.val.toNat = c := Char.ofNat_toNat c
  have hValid : c.val.toNat < 0xD800 ∨ 0xDFFF < c.val.toNat ∧ c.val.toNat < 0x110000 := c.valid
  simp only [String.utf8EncodeChar]
  generalize c.val.toNat = n at *
  split
  · refine ⟨_, _, rfl, ?_⟩
    rw [← hChar]
    exact readChar_ascii rest (by omega) (toNat_ofNat (by omega))
  split
  · refine ⟨_, _, rfl, ?_⟩
    rw [← hChar]
    exact readChar_two rest (by omega) (by omega) (toNat_ofNat (by omega))
      (toNat_ofNat (by omega))
  split
  · refine ⟨_, _, rfl, ?_⟩
    rw [← hChar]
    exact readChar_three rest (by omega) (by omega) (by omega) (toNat_ofNat (by omega))
      (toNat_ofNat (by omega)) (toNat_ofNat (by omega))
  · refine ⟨_, _, rfl, ?_⟩
    rw [← hChar]
    exact readChar_four rest (by omega) (by omega) (toNat_ofNat (by omega))
      (toNat_ofNat (by omega)) (toNat_ofNat (by omega)) (toNat_ofNat (by omega))

/-- By induction on the text, each character is read from the bytes that it wrote. -/
theorem decodeChars?_encodeChars (text : List Char) :
    decodeChars? (encodeChars text) = some text := by
  induction text with
  | nil => rw [encodeChars, List.flatMap_nil, decodeChars?]
  | cons c text ih =>
      obtain ⟨lead, tail, hBytes, hRead⟩ := readChar_utf8EncodeChar c (encodeChars text)
      have hCons : encodeChars (c :: text) = lead :: tail := hBytes
      rw [hCons, decodeChars?]
      split
      · next hSome =>
          rw [hRead] at hSome
          cases hSome
          rw [ih, Option.map_some]
      · next hNone =>
          rw [hRead] at hNone
          cases hNone

/-- An encoded text is read back. -/
theorem decode?_encode (text : String) : decode? (encode text) = some text := by
  rw [decode?, encode, decodeChars?_encodeChars, Option.map_some, String.ofList_toList]

/-- Bytes are the encoding of one text at most. -/
theorem encode_injective {text other : String} (hBytes : encode text = encode other) :
    text = other := by
  have hText := decode?_encode text
  rw [hBytes, decode?_encode] at hText
  exact (Option.some.inj hText).symm

theorem encode_append (text other : String) :
    encode (text ++ other) = encode text ++ encode other := by
  rw [encode, encode, encode, String.toList_append, encodeChars, List.flatMap_append]
  rfl

/-- A byte of ASCII belongs to the character of its number, and to no other. -/
theorem mem_toList_of_ascii {text : String} {b : UInt8} (hMem : b ∈ encode text)
    (hAscii : b.toNat < 128) : Char.ofNat b.toNat ∈ text.toList := by
  obtain ⟨c, hC, hByte⟩ := List.mem_flatMap.mp hMem
  have hChar : Char.ofNat c.val.toNat = c := Char.ofNat_toNat c
  have hBound : c.val.toNat < 0x110000 := by have := c.valid; omega
  suffices hCode : b.toNat = c.val.toNat by
    rw [hCode, hChar]
    exact hC
  have hHigh {low bits k : Nat} (hLow : 128 ≤ low) (hFits : low + bits ≤ 256) (hBits : 0 < bits)
      (hByte : b = UInt8.ofNat (k % bits + low)) : False := by
    have hLess := Nat.mod_lt k hBits
    rw [hByte, toNat_ofNat (by omega)] at hAscii
    omega
  simp only [String.utf8EncodeChar] at hByte
  generalize c.val.toNat = n at *
  split_ifs at hByte with hOne hTwo hThree <;>
    simp only [List.mem_cons, List.not_mem_nil, or_false] at hByte
  · rw [hByte]
    exact toNat_ofNat (by omega)
  · rcases hByte with hByte | hByte
    all_goals exact (hHigh (by decide) (by decide) (by decide) hByte).elim
  · rcases hByte with hByte | hByte | hByte
    all_goals exact (hHigh (by decide) (by decide) (by decide) hByte).elim
  · rcases hByte with hByte | hByte | hByte | hByte
    all_goals exact (hHigh (by decide) (by decide) (by decide) hByte).elim

theorem toNat_charOfNat {n : Nat} (hScalar : n < 0xD800 ∨ 0xDFFF < n ∧ n < 0x110000) :
    (Char.ofNat n).val.toNat = n := by
  have hValid : n.isValidChar := hScalar
  rw [Char.ofNat, dif_pos hValid]
  rfl

theorem ofNat_eq {n : Nat} {b : UInt8} (hByte : n = b.toNat) : UInt8.ofNat n = b := by
  rw [hByte, UInt8.ofNat_toNat]

/-- What the form that a leading byte announces says of that byte and of the next one. -/
theorem bounds_of_form? {lead b : UInt8} {form : Form} (hForm : form? lead = some form)
    (hAllows : form.Allows b) :
    (form.tails = 1 ∧ 194 ≤ lead.toNat ∧ lead.toNat < 224 ∨
      form.tails = 2 ∧ 224 ≤ lead.toNat ∧ lead.toNat < 240 ∧
        (lead.toNat = 224 → 160 ≤ b.toNat) ∧ (lead.toNat = 237 → b.toNat < 160) ∨
      form.tails = 3 ∧ 240 ≤ lead.toNat ∧ lead.toNat < 245 ∧
        (lead.toNat = 240 → 144 ≤ b.toNat) ∧ (lead.toNat = 244 → b.toNat < 144)) ∧
      128 ≤ b.toNat ∧ b.toNat < 192 := by
  rw [form?_eq] at hForm
  unfold Form.Allows at hAllows
  repeat' split at hForm
  all_goals cases hForm
  all_goals
    dsimp only at hAllows ⊢
    simp only [UInt8.reduceToNat] at hAllows
    omega

theorem toNat_of_isTail {b : UInt8} (hTail : isTail b = true) :
    128 ≤ b.toNat ∧ b.toNat < 192 := by
  rw [isTail, Bool.and_eq_true, decide_eq_true_eq, decide_eq_true_eq, UInt8.le_iff_toNat_le,
    UInt8.le_iff_toNat_le] at hTail
  simp only [UInt8.reduceToNat] at hTail
  omega

theorem Form.allows_of_inRange {form : Form} {b : UInt8}
    (hRange : ¬ (b < form.low || form.high < b) = true) : form.Allows b := by
  rw [Bool.or_eq_true, decide_eq_true_eq, decide_eq_true_eq, UInt8.lt_iff_toNat_lt,
    UInt8.lt_iff_toNat_lt] at hRange
  unfold Allows
  omega

section Bytes

variable {lead b c d : UInt8} (hB : 128 ≤ b.toNat ∧ b.toNat < 192)

theorem utf8EncodeChar_ascii (hLead : lead.toNat < 128) :
    String.utf8EncodeChar (Char.ofNat lead.toNat) = [lead] := by
  simp only [String.utf8EncodeChar, toNat_charOfNat (n := lead.toNat) (.inl (by omega))]
  rw [if_pos (by omega), ofNat_eq rfl]

include hB

theorem utf8EncodeChar_two (hLead : 194 ≤ lead.toNat ∧ lead.toNat < 224) :
    String.utf8EncodeChar (Char.ofNat (lead.toNat % 32 * 64 + tailBits b)) = [lead, b] := by
  obtain ⟨n, hN⟩ : ∃ n, n = lead.toNat % 32 * 64 + tailBits b := ⟨_, rfl⟩
  rw [← hN]
  rw [tailBits] at hN
  simp only [String.utf8EncodeChar, toNat_charOfNat (n := n) (.inl (by omega))]
  rw [if_neg (by omega), if_pos (by omega), ofNat_eq (b := lead) (by omega),
    ofNat_eq (b := b) (by omega)]

variable (hC : 128 ≤ c.toNat ∧ c.toNat < 192)

include hC

theorem utf8EncodeChar_three (hLead : 224 ≤ lead.toNat ∧ lead.toNat < 240)
    (hLow : lead.toNat = 224 → 160 ≤ b.toNat) (hSurrogate : lead.toNat = 237 → b.toNat < 160) :
    String.utf8EncodeChar
        (Char.ofNat ((lead.toNat % 16 * 64 + tailBits b) * 64 + tailBits c)) = [lead, b, c] := by
  obtain ⟨n, hN⟩ : ∃ n, n = (lead.toNat % 16 * 64 + tailBits b) * 64 + tailBits c := ⟨_, rfl⟩
  rw [← hN]
  rw [tailBits, tailBits] at hN
  simp only [String.utf8EncodeChar, toNat_charOfNat (n := n) (by omega)]
  rw [if_neg (by omega), if_neg (by omega), if_pos (by omega), ofNat_eq (b := lead) (by omega),
    ofNat_eq (b := b) (by omega), ofNat_eq (b := c) (by omega)]

theorem utf8EncodeChar_four (hD : 128 ≤ d.toNat ∧ d.toNat < 192)
    (hLead : 240 ≤ lead.toNat ∧ lead.toNat < 245) (hLow : lead.toNat = 240 → 144 ≤ b.toNat)
    (hHigh : lead.toNat = 244 → b.toNat < 144) :
    String.utf8EncodeChar (Char.ofNat
        (((lead.toNat % 8 * 64 + tailBits b) * 64 + tailBits c) * 64 + tailBits d)) =
      [lead, b, c, d] := by
  obtain ⟨n, hN⟩ : ∃ n, n =
    ((lead.toNat % 8 * 64 + tailBits b) * 64 + tailBits c) * 64 + tailBits d := ⟨_, rfl⟩
  rw [← hN]
  rw [tailBits, tailBits, tailBits] at hN
  simp only [String.utf8EncodeChar, toNat_charOfNat (n := n) (by omega)]
  rw [if_neg (by omega), if_neg (by omega), if_neg (by omega), ofNat_eq (b := lead) (by omega),
    ofNat_eq (b := b) (by omega), ofNat_eq (b := c) (by omega), ofNat_eq (b := d) (by omega)]

end Bytes

/-- A character that was read has the bytes that it was read from. -/
theorem utf8EncodeChar_of_readChar {lead : UInt8} {rest after : Bytes} {ch : Char}
    (hRead : readChar lead rest = (some ch, after)) :
    String.utf8EncodeChar ch ++ after = lead :: rest := by
  unfold readChar at hRead
  split at hRead
  · next hAscii =>
      cases hRead
      rw [UInt8.lt_iff_toNat_lt] at hAscii
      rw [utf8EncodeChar_ascii hAscii]
      rfl
  split at hRead
  · cases hRead
  · cases hRead
  next form b rest hForm =>
  split at hRead
  · cases hRead
  next hRange =>
  obtain ⟨hBounds, hB⟩ := bounds_of_form? hForm (Form.allows_of_inRange hRange)
  split at hRead
  · cases hRead
    rw [utf8EncodeChar_two hB (by omega)]
    rfl
  split at hRead
  · cases hRead
  next c rest =>
  split at hRead
  · cases hRead
  next hTail =>
  have hC := toNat_of_isTail (by simpa using hTail)
  split at hRead
  · cases hRead
    rw [utf8EncodeChar_three hB hC (by omega) (by omega) (by omega)]
    rfl
  split at hRead
  · cases hRead
  next d rest =>
  split at hRead
  · cases hRead
  next hTail =>
  cases hRead
  rw [utf8EncodeChar_four hB hC (toNat_of_isTail (by simpa using hTail)) (by omega) (by omega)
    (by omega)]
  rfl

/-- Bytes that can be read are the encoding of what is read. There is no second way to write a
character. -/
theorem encodeChars_of_decodeChars? {bytes : Bytes} {text : List Char}
    (hText : decodeChars? bytes = some text) : encodeChars text = bytes := by
  fun_induction decodeChars? bytes generalizing text with
  | case1 =>
      cases hText
      rfl
  | case2 lead rest ch after hRead hShorter ih =>
      obtain ⟨text, hAfter, rfl⟩ := Option.map_eq_some_iff.mp hText
      rw [encodeChars, List.flatMap_cons, ← encodeChars, ih hAfter]
      exact utf8EncodeChar_of_readChar hRead
  | case3 => cases hText

/-- Bytes that encode a text are what the text is encoded as. -/
theorem encode_of_decode? {bytes : Bytes} {text : String} (hText : decode? bytes = some text) :
    encode text = bytes := by
  obtain ⟨chars, hChars, rfl⟩ := Option.map_eq_some_iff.mp hText
  rw [encode, String.toList_ofList, encodeChars_of_decodeChars? hChars]

end Stencil.Text.Utf8
