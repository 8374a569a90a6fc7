import Mathlib
import Stencil.Proofs.Text.Blank
import Stencil.SizeLimit

/-! What is read as a size limit. A limit is read exactly if it is written as a number and a unit,
and the bytes that these come to are as many as a machine word can count. -/

namespace Stencil.SizeLimit

open Text

/-- A size limit as it may be written: a whole number, with or without a plus sign in front of it,
and a unit of `factor` bytes in small or capital letters, with blanks around both. -/
def Written (text digits : List Char) (factor : Nat) : Prop :=
  ∃ front sign gap letters back,
    text = front ++ sign ++ digits ++ gap ++ letters ++ back ∧
    (∀ c ∈ front ++ gap ++ back, isBlank c = true) ∧
    (sign = [] ∨ sign = ['+']) ∧ digits ≠ [] ∧ (∀ c ∈ digits, c.isDigit = true) ∧
    (String.ofList (letters.map Char.toLower), factor) ∈
      [("kb", 1024), ("mb", 1024 ^ 2), ("gb", 1024 ^ 3)]

/-- The number that decimal digits stand for. -/
def value (digits : List Char) : Nat :=
  Nat.ofDigits 10 (digits.reverse.map fun c => c.toNat - '0'.toNat)

theorem digitsValue_eq (digits : List Char) : digitsValue digits = value digits := by
  induction digits using List.reverseRecOn with
  | nil => rfl
  | append_singleton digits c ih =>
      rw [digitsValue, List.foldl_append]
      show 10 * digitsValue digits + _ = _
      rw [ih, value, value, List.reverse_concat, List.map_cons, Nat.ofDigits_cons, Nat.add_comm]

/-- A sign does not change a number. -/
theorem number?_append {sign digits : List Char} (hSign : sign = [] ∨ sign = ['+'])
    (hDigits : ∀ c ∈ digits, c.isDigit = true) : number? (sign ++ digits) =
      if digits.isEmpty then none
      else if value digits < 2 ^ 64 then some (value digits) else none := by
  have hAll : digits.all Char.isDigit = true := List.all_eq_true.mpr hDigits
  rcases hSign with rfl | rfl
  · have hUnsigned (rest : List Char) (hPlus : digits = '+' :: rest) : False :=
      absurd (hDigits '+' (hPlus ▸ List.mem_cons_self)) (by decide)
    rw [List.nil_append, number?, digitsValue_eq, hAll, Bool.not_true, Bool.or_false]
    · rfl
    · exact hUnsigned
  · rw [List.singleton_append, number?, digitsValue_eq, hAll, Bool.not_true, Bool.or_false]
    rfl

theorem exists_sign_of_number? {text : List Char} {n : Nat} (hNumber : number? text = some n) :
    ∃ sign digits, text = sign ++ digits ∧ (sign = [] ∨ sign = ['+']) ∧
      ∀ c ∈ digits, c.isDigit = true := by
  have hAll {digits : List Char} {found : Option Nat}
      (hFound : (if digits.isEmpty || !digits.all Char.isDigit then none else found) = some n) :
      ∀ c ∈ digits, c.isDigit = true := by
    by_contra hOther
    simp [hOther] at hFound
  by_cases hPlus : ∃ rest, text = '+' :: rest
  · obtain ⟨rest, rfl⟩ := hPlus
    rw [number?] at hNumber
    exact ⟨['+'], rest, rfl, .inr rfl, hAll hNumber⟩
  · rw [number?] at hNumber
    · exact ⟨[], text, rfl, .inl rfl, hAll hNumber⟩
    · exact fun rest hText => hPlus ⟨rest, hText⟩

/-- A number is digits behind at most one plus sign, and fits in 64 bits. -/
theorem number?_eq_some_iff {text : List Char} {n : Nat} :
    number? text = some n ↔ ∃ sign digits, text = sign ++ digits ∧ (sign = [] ∨ sign = ['+']) ∧
      digits ≠ [] ∧ (∀ c ∈ digits, c.isDigit = true) ∧ n = value digits ∧ n < 2 ^ 64 := by
  constructor
  · intro hNumber
    obtain ⟨sign, digits, rfl, hSign, hDigits⟩ := exists_sign_of_number? hNumber
    rw [number?_append hSign hDigits] at hNumber
    split at hNumber
    · cases hNumber
    next hSome =>
    split at hNumber
    next hFits =>
      cases hNumber
      exact ⟨sign, digits, rfl, hSign, by simpa using hSome, hDigits, rfl, hFits⟩
    · cases hNumber
  · rintro ⟨sign, digits, rfl, hSign, hSome, hDigits, rfl, hFits⟩
    rw [number?_append hSign hDigits, if_neg (by simpa using hSome), if_pos hFits]

/-- A unit may be written in either case. -/
theorem unit?_eq_some_iff {text : List Char} {factor : Nat} :
    unit? text = some factor ↔ (String.ofList (text.map Char.toLower), factor) ∈ units := by
  rw [unit?]
  generalize String.ofList (text.map Char.toLower) = name
  constructor
  · intro hLookup
    obtain ⟨front, back, hUnits, -⟩ := List.lookup_eq_some_iff.mp hLookup
    rw [hUnits]
    exact List.mem_append_right front List.mem_cons_self
  · intro hMem
    simp [units] at hMem
    rcases hMem with ⟨rfl, rfl⟩ | ⟨rfl, rfl⟩ | ⟨rfl, rfl⟩ <;> decide

/-- What counts as a letter for the unit to start at: all of ASCII's letters, and whatever else is
neither a blank, nor a digit, nor a plus sign. -/
structure Letters (isLetter : Char → Bool) : Prop where
  alpha : ∀ c, c.isAlpha = true → isLetter c = true
  blank : ∀ c, isBlank c = true → isLetter c = false
  digit : ∀ c, c.isDigit = true → isLetter c = false
  plus : isLetter '+' = false

/-- Reads a number and a unit that starts at the first of these letters. -/
def bytesFrom? (isLetter : Char → Bool) (text : List Char) : Option Nat :=
  let trimmed := trim text
  match number? (trim (trimmed.takeWhile fun c => !isLetter c)),
    unit? (trim (trimmed.dropWhile fun c => !isLetter c)) with
  | some amount, some unit => if amount * unit < bound then some (amount * unit) else none
  | _, _ => none

theorem isAlpha_iff_toNat {c : Char} :
    c.isAlpha = true ↔ (65 ≤ c.toNat ∧ c.toNat ≤ 90) ∨ (97 ≤ c.toNat ∧ c.toNat ≤ 122) := by
  simp [Char.isAlpha, Char.isUpper, Char.isLower, UInt32.le_iff_toNat_le]

theorem isBlank_of_isAlpha {c : Char} (hAlpha : c.isAlpha = true) : isBlank c = false := by
  have hRange := isAlpha_iff_toNat.mp hAlpha
  apply isBlank_of_visible <;> omega

theorem isBlank_of_isDigit {c : Char} (hDigit : c.isDigit = true) : isBlank c = false := by
  have hRange := Char.isDigit_iff_toNat.mp hDigit
  apply isBlank_of_visible <;> simp at hRange <;> omega

theorem letters_isAlpha : Letters Char.isAlpha where
  alpha _ hAlpha := hAlpha
  blank c hBlank := by
    cases hAlpha : c.isAlpha with
    | false => rfl
    | true => rw [isBlank_of_isAlpha hAlpha] at hBlank; cases hBlank
  digit c hDigit := by
    have hRange := Char.isDigit_iff_toNat.mp hDigit
    rw [Bool.eq_false_iff, Ne, isAlpha_iff_toNat]
    simp at hRange
    omega
  plus := by decide

/-- What is read is written, whichever characters are taken for letters. -/
theorem written_of_bytesFrom? {isLetter : Char → Bool} {text : List Char} {n : Nat}
    (hBytes : bytesFrom? isLetter text = some n) :
    ∃ digits factor, Written text digits factor ∧ n = value digits * factor ∧ n < 2 ^ 64 := by
  rw [bytesFrom?] at hBytes
  have hSplit := List.takeWhile_append_dropWhile (l := trim text) (p := fun c => !isLetter c)
  obtain ⟨front, back, hText, hFront, hBack⟩ := exists_trim text
  generalize (trim text).takeWhile (fun c => !isLetter c) = amountPart at hBytes hSplit
  generalize (trim text).dropWhile (fun c => !isLetter c) = unitPart at hBytes hSplit
  obtain ⟨front', back', hAmountPart, hFront', hBack'⟩ := exists_trim amountPart
  obtain ⟨front'', back'', hUnitPart, hFront'', hBack''⟩ := exists_trim unitPart
  split at hBytes
  next amount factor hNumber hUnit =>
    obtain ⟨sign, digits, hSigned, hSign, hNe, hDigits, rfl, -⟩ :=
      number?_eq_some_iff.mp hNumber
    split at hBytes
    next hFits =>
      cases hBytes
      refine ⟨digits, factor, ⟨front ++ front', sign, back' ++ front'', trim unitPart,
        back'' ++ back, ?_, ?_, hSign, hNe, hDigits, unit?_eq_some_iff.mp hUnit⟩, rfl, hFits⟩
      · calc text = front ++ (amountPart ++ unitPart) ++ back := by rw [hSplit, ← hText]
          _ = front ++ (front' ++ (sign ++ digits) ++ back' ++
              (front'' ++ trim unitPart ++ back'')) ++ back := by
            rw [← hSigned, ← hAmountPart, ← hUnitPart]
          _ = _ := by simp only [List.append_assoc]
      · simp only [List.forall_mem_append]
        exact ⟨⟨⟨hFront, hFront'⟩, hBack', hFront''⟩, hBack'', hBack⟩
    · cases hBytes
  · cases hBytes

theorem isAlpha_of_unit {letters : List Char} {factor : Nat}
    (hUnit : (String.ofList (letters.map Char.toLower), factor) ∈ units) :
    letters ≠ [] ∧ ∀ c ∈ letters, c.isAlpha = true := by
  have hNames : ∀ entry ∈ units,
      entry.1.toList ≠ [] ∧ entry.1.toList.all Char.isAlpha = true := by decide
  obtain ⟨hNe, hAlpha⟩ := hNames _ hUnit
  rw [String.toList_ofList] at hNe hAlpha
  refine ⟨fun hNil => hNe (by rw [hNil]; rfl), fun c hMem => ?_⟩
  rw [← Char.isAlpha_toLower_eq_isAlpha]
  exact List.all_eq_true.mp hAlpha _ (List.mem_map_of_mem hMem)

/-- Every unit comes to some bytes. -/
theorem factor_pos {name : String} {factor : Nat} (hUnit : (name, factor) ∈ units) :
    0 < factor := by
  have hFactors : ∀ entry ∈ units, 0 < entry.2 := by decide
  exact hFactors _ hUnit

theorem isBlank_of_number {sign digits : List Char} (hSign : sign = [] ∨ sign = ['+'])
    (hDigits : ∀ c ∈ digits, c.isDigit = true) : ∀ c ∈ sign ++ digits, isBlank c = false := by
  refine List.forall_mem_append.mpr ⟨?_, fun c hMem => isBlank_of_isDigit (hDigits c hMem)⟩
  rcases hSign with rfl | rfl
  · exact List.forall_mem_nil _
  · exact List.forall_mem_singleton.mpr (by decide)

theorem Letters.of_number {isLetter : Char → Bool} (hLetters : Letters isLetter)
    {sign digits : List Char} (hSign : sign = [] ∨ sign = ['+'])
    (hDigits : ∀ c ∈ digits, c.isDigit = true) : ∀ c ∈ sign ++ digits, isLetter c = false := by
  refine List.forall_mem_append.mpr ⟨?_, fun c hMem => hLetters.digit c (hDigits c hMem)⟩
  rcases hSign with rfl | rfl
  · exact List.forall_mem_nil _
  · exact List.forall_mem_singleton.mpr hLetters.plus

/-- What is written is read, if it is no more than a machine word can count. -/
theorem bytesFrom?_of_written {isLetter : Char → Bool} (hLetters : Letters isLetter)
    {text digits : List Char} {factor : Nat} (hWritten : Written text digits factor)
    (hFits : value digits * factor < 2 ^ 64) :
    bytesFrom? isLetter text = some (value digits * factor) := by
  obtain ⟨front, sign, gap, letters, back, rfl, hBlank, hSign, hNe, hDigits, hUnit⟩ := hWritten
  simp only [List.forall_mem_append] at hBlank
  obtain ⟨⟨hFront, hGap⟩, hBack⟩ := hBlank
  obtain ⟨hSome, hAlpha⟩ := isAlpha_of_unit hUnit
  have hAmount : number? (sign ++ digits) = some (value digits) := by
    refine number?_eq_some_iff.mpr ⟨sign, digits, rfl, hSign, hNe, hDigits, rfl, ?_⟩
    exact Nat.lt_of_le_of_lt (Nat.le_mul_of_pos_right _ (factor_pos hUnit)) hFits
  have hNumberBlank := isBlank_of_number hSign hDigits
  have hNumberLetter := hLetters.of_number hSign hDigits
  have hNumber : sign ++ digits ≠ [] := by simp [hNe]
  rw [List.append_assoc front]
  generalize sign ++ digits = number at *
  have hTrim : trim (front ++ number ++ gap ++ letters ++ back) = number ++ gap ++ letters := by
    have hWhole : front ++ number ++ gap ++ letters ++ back =
        front ++ (number ++ gap ++ letters) ++ back := by simp only [List.append_assoc]
    rw [hWhole]
    apply trim_around hFront hBack
    · intro c hHead
      rw [List.append_assoc, List.head?_append_of_ne_nil _ hNumber] at hHead
      exact hNumberBlank c (List.mem_of_mem_head? hHead)
    · intro c hLast
      rw [List.getLast?_append_of_ne_nil _ hSome] at hLast
      exact isBlank_of_isAlpha (hAlpha c (List.mem_of_getLast? hLast))
  have hBefore : ∀ c ∈ number ++ gap, (!isLetter c) = true := by
    refine List.forall_mem_append.mpr ⟨fun c hMem => ?_, fun c hMem => ?_⟩
    · rw [hNumberLetter c hMem, Bool.not_false]
    · rw [hLetters.blank c (hGap c hMem), Bool.not_false]
  have hAfter : ∀ c ∈ letters.head?, (!isLetter c) = false := by
    intro c hHead
    rw [hLetters.alpha c (hAlpha c (List.mem_of_mem_head? hHead)), Bool.not_true]
  have hTrimNumber : trim (number ++ gap) = number := by
    simpa using trim_around (List.forall_mem_nil _) hGap
      (fun c hHead => hNumberBlank c (List.mem_of_mem_head? hHead))
      (fun c hLast => hNumberBlank c (List.mem_of_getLast? hLast))
  have hTrimUnit : trim letters = letters :=
    trim_of_solid fun c hMem => isBlank_of_isAlpha (hAlpha c hMem)
  rw [bytesFrom?, hTrim, takeWhile_append_of_stop hBefore hAfter,
    dropWhile_append_of_stop hBefore hAfter, hTrimNumber, hTrimUnit, hAmount,
    unit?_eq_some_iff.mpr hUnit]
  exact if_pos hFits

/-- A limit is read just from the texts that write it, with whatever class of letters the unit is
found. -/
theorem bytesFrom?_eq_some_iff {isLetter : Char → Bool} (hLetters : Letters isLetter)
    {text : List Char} {n : Nat} :
    bytesFrom? isLetter text = some n ↔
      ∃ digits factor, Written text digits factor ∧ n = value digits * factor ∧ n < 2 ^ 64 := by
  constructor
  · exact written_of_bytesFrom?
  · rintro ⟨digits, factor, hWritten, rfl, hFits⟩
    exact bytesFrom?_of_written hLetters hWritten hFits

/-- A limit is read exactly if it is written as one and is less than `2 ^ 64`. Then what is read is
the number times the unit, and any other text is refused and named in the fault. Which characters
beyond those of ASCII count as letters has no say in this. -/
theorem limits_are_read_as_written (text : String) :
    (∀ n, parse text = .ok n ↔ ∃ digits factor, Written text.toList digits factor ∧
      n = value digits * factor ∧ n < 2 ^ 64) ∧
    (∀ fault, parse text = .error fault ↔ fault = .invalidSize text ∧
      ¬ ∃ digits factor, Written text.toList digits factor ∧ value digits * factor < 2 ^ 64) ∧
    ∀ isLetter, Letters isLetter → bytesFrom? isLetter text.toList = bytes? text.toList := by
  have hRead (n : Nat) : bytes? text.toList = some n ↔ ∃ digits factor,
      Written text.toList digits factor ∧ n = value digits * factor ∧ n < 2 ^ 64 :=
    bytesFrom?_eq_some_iff letters_isAlpha
  refine ⟨fun n => ?_, fun fault => ?_, fun isLetter hLetters => ?_⟩
  · rw [← hRead, parse]
    cases bytes? text.toList <;> simp
  · have hNone : bytes? text.toList = none ↔ ¬ ∃ digits factor,
        Written text.toList digits factor ∧ value digits * factor < 2 ^ 64 := by
      rw [Option.eq_none_iff_forall_ne_some]
      simp only [ne_eq, hRead]
      constructor
      · rintro hNone ⟨digits, factor, hWritten, hFits⟩
        exact hNone _ ⟨digits, factor, hWritten, rfl, hFits⟩
      · rintro hNone _ ⟨digits, factor, hWritten, rfl, hFits⟩
        exact hNone ⟨digits, factor, hWritten, hFits⟩
    rw [← hNone, parse]
    cases bytes? text.toList <;> simp [eq_comm]
  · apply Option.ext
    intro n
    rw [hRead, bytesFrom?_eq_some_iff hLetters]

/-- Blanks that are not ASCII's, a plus sign, leading zeros and both cases. -/
theorem limits_are_read_as_written_with_sign_and_zeros :
    let text := "\u2003+0017\u00a0Mb\n"
    let isLetter (c : Char) : Bool := c.isAlpha || c = 'é'
    parse text = .ok (17 * 1024 ^ 2) ∧ Letters isLetter ∧
    bytesFrom? isLetter text.toList = bytes? text.toList := by
  intro text isLetter
  have hLetters : Letters isLetter := by
    constructor
    · intro c hAlpha
      simp [isLetter, hAlpha]
    · intro c hBlank
      have hAccent : c ≠ 'é' := by
        rintro rfl
        exact absurd hBlank (by decide)
      simp [isLetter, letters_isAlpha.blank c hBlank, hAccent]
    · intro c hDigit
      have hAccent : c ≠ 'é' := by
        rintro rfl
        exact absurd hDigit (by decide)
      simp [isLetter, letters_isAlpha.digit c hDigit, hAccent]
    · decide
  obtain ⟨hOk, -, hAny⟩ := limits_are_read_as_written text
  refine ⟨(hOk _).mpr ⟨['0', '0', '1', '7'], 1024 ^ 2, ?_, by decide, by decide⟩, hLetters,
    hAny isLetter hLetters⟩
  exact ⟨['\u2003'], ['+'], ['\u00a0'], ['M', 'b'], ['\n'], by decide,
    List.all_eq_true.mp (by decide), .inr rfl, by decide, List.all_eq_true.mp (by decide),
    by decide⟩

end Stencil.SizeLimit
