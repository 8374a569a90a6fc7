import Mathlib.Data.String.Basic
import Stencil.Text.Utf8

/-! Facts on encodings that need no reading of their bytes. The bytes of characters come in the
order of the characters, so texts come in the same order by characters and by bytes. -/

namespace Stencil.Text.Utf8

theorem encode_ne_nil {text : String} (hText : text ≠ "") : encode text ≠ [] := by
  rw [encode, encodeChars, Ne, List.flatMap_eq_nil_iff]
  intro hNil
  cases hChars : text.toList with
  | nil => exact hText (String.toList_eq_nil_iff.mp hChars)
  | cons c rest => exact String.utf8EncodeChar_ne_nil (hNil c (hChars ▸ List.mem_cons_self))

/-- The bytes of a character come before those of a later one, whatever follows. -/
theorem utf8EncodeChar_lt {c d : Char} (hLess : c < d) (rest rest' : Bytes) :
    String.utf8EncodeChar c ++ rest < String.utf8EncodeChar d ++ rest' := by
  have hCodes : c.val.toNat < d.val.toNat := hLess
  have hBound : d.val.toNat < 0x110000 := by
    rcases d.valid with hLow | ⟨-, hHigh⟩
    · exact hLow.trans (by decide)
    · exact hHigh
  simp only [String.utf8EncodeChar]
  generalize c.val.toNat = n at *
  generalize d.val.toNat = m at *
  have hByte (base bits k : Nat) (hFits : base + bits ≤ 256) (hBits : 0 < bits) :
      (k % bits + base) % 256 = k % bits + base :=
    Nat.mod_eq_of_lt (by have := Nat.mod_lt k hBits; omega)
  -- all quotients by successive ones, so that digits can be compared one by one
  have hTwice (k : Nat) : k / 4096 = k / 64 / 64 := by omega
  have hThrice (k : Nat) : k / 262144 = k / 64 / 64 / 64 := by omega
  split_ifs
  all_goals
    simp only [List.cons_append, List.nil_append, List.cons_lt_cons_iff, UInt8.lt_iff_toNat_lt,
      ← UInt8.toNat_inj, UInt8.toNat_ofNat']
    simp (disch := omega) only [hByte, hTwice, hThrice, Nat.reducePow,
      Nat.add_lt_add_iff_right, Nat.add_right_cancel_iff]
    omega

theorem encodeChars_lt {text other : List Char} (hLess : text < other) :
    encodeChars text < encodeChars other := by
  induction text generalizing other with
  | nil =>
      cases other with
      | nil => exact absurd hLess (lt_irrefl _)
      | cons d other =>
          have hCode : String.utf8EncodeChar d ≠ [] := String.utf8EncodeChar_ne_nil
          obtain ⟨b, rest, hBytes⟩ := List.exists_cons_of_ne_nil hCode
          rw [encodeChars, encodeChars, List.flatMap_cons, hBytes]
          exact List.nil_lt_cons _ _
  | cons c text ih =>
      cases other with
      | nil => exact absurd hLess (List.not_lt_nil _)
      | cons d other =>
          rcases List.cons_lt_cons_iff.mp hLess with hChar | ⟨rfl, hRest⟩
          · exact utf8EncodeChar_lt hChar _ _
          · exact List.append_left_lt (ih hRest)

/-- The order of texts by their characters is their order by bytes. -/
theorem encode_lt_encode_iff {text other : String} :
    encode text < encode other ↔ text < other := by
  rw [String.lt_iff_toList_lt]
  constructor
  · intro hBytes
    rcases lt_trichotomy text.toList other.toList with hLess | hSame | hMore
    · exact hLess
    · rw [encode, encode, hSame] at hBytes
      exact absurd hBytes (List.lt_irrefl _)
    · exact absurd hBytes (List.lt_asymm (encodeChars_lt hMore))
  · exact encodeChars_lt

end Stencil.Text.Utf8
