/-!
UTF-8: encoding, strict decoding, and decoding in which every broken sequence reads as the
replacement character. A broken sequence is the longest run of bytes that could still have
begun a character, or one byte that begins none.
-/

namespace Stencil

/-- The contents of a file. -/
abbrev Bytes := List UInt8

namespace Text.Utf8

/-- What a leading byte beyond ASCII announces: how many bytes follow it, and the range of
the first of these. The range excludes overlong forms, surrogates and values past U+10FFFF. -/
structure Form where
  tails : Nat
  low : UInt8
  high : UInt8

/-- The form that a leading byte announces, if it leads a character beyond ASCII. -/
def form? (lead : UInt8) : Option Form :=
  if lead < 0xC2 then none
  else if lead < 0xE0 then some ⟨1, 0x80, 0xBF⟩
  else if lead = 0xE0 then some ⟨2, 0xA0, 0xBF⟩
  else if lead = 0xED then some ⟨2, 0x80, 0x9F⟩
  else if lead < 0xF0 then some ⟨2, 0x80, 0xBF⟩
  else if lead = 0xF0 then some ⟨3, 0x90, 0xBF⟩
  else if lead < 0xF4 then some ⟨3, 0x80, 0xBF⟩
  else if lead = 0xF4 then some ⟨3, 0x80, 0x8F⟩
  else none

/-- Whether a byte may continue a character. -/
def isTail (b : UInt8) : Bool := 0x80 ≤ b && b ≤ 0xBF

/-- The six value bits of a continuing byte. -/
def tailBits (b : UInt8) : Nat := b.toNat % 64

/-- Reads one character from `lead :: rest`. Gives the character, or `none` for a broken
sequence, and the bytes after it. -/
def readChar (lead : UInt8) (rest : Bytes) : Option Char × Bytes :=
  if lead < 0x80 then (some (Char.ofNat lead.toNat), rest)
  else
    match form? lead, rest with
    | none, _ => (none, rest)
    | some _, [] => (none, [])
    | some form, b :: rest =>
        if b < form.low || form.high < b then (none, b :: rest)
        else if form.tails = 1 then
          (some (Char.ofNat (lead.toNat % 32 * 64 + tailBits b)), rest)
        else
          match rest with
          | [] => (none, [])
          | c :: rest =>
              if !isTail c then (none, c :: rest)
              else if form.tails = 2 then
                (some (Char.ofNat ((lead.toNat % 16 * 64 + tailBits b) * 64 + tailBits c)), rest)
              else
                match rest with
                | [] => (none, [])
                | d :: rest =>
                    if !isTail d then (none, d :: rest)
                    else
                      (some (Char.ofNat
                        (((lead.toNat % 8 * 64 + tailBits b) * 64 + tailBits c) * 64 +
                          tailBits d)), rest)

theorem readChar_length_le (lead : UInt8) (rest : Bytes) :
    (readChar lead rest).2.length ≤ rest.length := by
  unfold readChar
  split
  · exact Nat.le_refl _
  · split
    · exact Nat.le_refl _
    · exact Nat.le_refl _
    · repeat' split
      all_goals simp only [List.length_cons, List.length_nil]; omega

/-- The characters of a valid encoding; `none` if any sequence is broken. -/
def decodeChars? : Bytes → Option (List Char)
  | [] => some []
  | lead :: rest =>
      match h : readChar lead rest with
      | (some c, after) =>
          have shorter : after.length ≤ rest.length := by
            simpa only [h] using readChar_length_le lead rest
          (decodeChars? after).map (c :: ·)
      | (none, _) => none
termination_by bytes => bytes.length
decreasing_by exact Nat.lt_succ_of_le shorter

/-- The characters of any bytes, with U+FFFD in place of each broken sequence. -/
def decodeCharsLossy : Bytes → List Char
  | [] => []
  | lead :: rest =>
      have _shorter := readChar_length_le lead rest
      (readChar lead rest).1.getD '\uFFFD' :: decodeCharsLossy (readChar lead rest).2
termination_by bytes => bytes.length
decreasing_by exact Nat.lt_succ_of_le _shorter

def encodeChars (text : List Char) : Bytes := text.flatMap String.utf8EncodeChar

def encode (text : String) : Bytes := encodeChars text.toList

/-- The text that the bytes encode, if they are valid. -/
def decode? (bytes : Bytes) : Option String := (decodeChars? bytes).map String.ofList

/-- The text of any bytes, with U+FFFD in place of each broken sequence. -/
def decodeLossy (bytes : Bytes) : String := String.ofList (decodeCharsLossy bytes)

def isValid (bytes : Bytes) : Bool := (decodeChars? bytes).isSome

end Text.Utf8

end Stencil
