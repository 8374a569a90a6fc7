import Mathlib.Logic.Basic
import Stencil.Command.Invocation

/-! Options without a value and without a letter. Such a flag is read in one way only, from a word
of its own, so an accepted command line sets it exactly if the word is there. -/

namespace Stencil.Command

/-- An option that takes no value and has no letter. -/
def Opt.IsFlag (opt : Opt) : Prop := opt.takesValue = false ∧ opt.short? = none

theorem Opt.IsFlag.ne {opt other : Opt} (hFlag : opt.IsFlag) (hTakes : other.takesValue = true) :
    other ≠ opt := by
  rintro rfl
  exact absurd (hFlag.1.symm.trans hTakes) Bool.false_ne_true

/-- The word that a flag is spelled as. -/
def Opt.word (opt : Opt) : String := "--" ++ opt.long

/-- No two options share a long name. -/
theorem Opt.long_injective {first second : Opt} (hLong : first.long = second.long) :
    first = second := by
  cases first <;> cases second <;> first | rfl | exact absurd hLong (by decide)

theorem Word.ofText_word (opt : Opt) : Word.ofText opt.word = .long opt.long none := by
  cases opt <;> decide +kernel

/-- Only one word names an option and gives it no value. -/
theorem Word.eq_of_ofText {text name : String} (hText : Word.ofText text = .long name none) :
    text = "--" ++ name := by
  unfold Word.ofText at hText
  split at hText
  · cases hText
  · next front rest hList =>
      split at hText
      · cases hText
      · obtain rfl := (Word.long.inj hText).1
        have hDashes : '-' :: '-' :: front = "--".toList ++ front := rfl
        rw [← String.ofList_toList (s := text), hList, hDashes, String.ofList_append,
          String.ofList_toList]
  · cases hText
  · cases hText

namespace Reading

variable {reading next : Reading} {opt other : Opt} {options : List Opt}

/-- Only an option that takes a value is left waiting for one. -/
def Waits (reading : Reading) : Prop := ∀ entry ∈ reading.pending, entry.1.takesValue = true

/-- Taking up an option sets this one and no other. -/
theorem has_of_accept (opt : Opt) {value : Option String}
    (hNext : reading.accept other value = .ok next) :
    next.pending = reading.pending ∧
      (next.has opt = true ↔ reading.has opt = true ∨ other = opt) := by
  unfold accept at hNext
  split at hNext
  · cases hNext
  · split at hNext
    · cases hNext
    · obtain rfl := Except.ok.inj hNext
      exact ⟨rfl, by simp [has]⟩

/-- Settling what waits sets no flag, since only options with values wait. -/
theorem has_of_settle (hWaits : reading.Waits) (hFlag : opt.IsFlag)
    (hNext : reading.settle = .ok next) :
    next.pending = none ∧ (next.has opt = true ↔ reading.has opt = true) := by
  unfold settle at hNext
  split at hNext
  · next hPending =>
      obtain rfl := Except.ok.inj hNext
      exact ⟨hPending, Iff.rfl⟩
  · cases hNext
  · next waiting value hPending =>
      obtain ⟨hNone, hHas⟩ := has_of_accept opt hNext
      exact ⟨hNone, hHas.trans (or_iff_left (hFlag.ne (hWaits _ hPending)))⟩

theorem waits_of_none (hPending : reading.pending = none) : reading.Waits := by
  intro entry hMem
  rw [hPending] at hMem
  cases hMem

/-- A switch sets itself, and settles what waited before it. -/
theorem has_of_switch (hWaits : reading.Waits) (hFlag : opt.IsFlag)
    (hNext : reading.switch other = .ok next) :
    next.Waits ∧ (next.has opt = true ↔ reading.has opt = true ∨ other = opt) := by
  unfold switch at hNext
  split at hNext
  · cases hNext
  · next settled hSettled =>
      obtain ⟨hNone, hSame⟩ := has_of_settle hWaits hFlag hSettled
      split at hNext
      · cases hNext
      · cases hNext
      · obtain ⟨hPending, hHas⟩ := has_of_accept opt hNext
        exact ⟨waits_of_none (hPending.trans hNone), hHas.trans (or_congr_left hSame)⟩

/-- An option with a value sets no flag, whether the value is attached or waited for. -/
theorem has_of_value (hWaits : reading.Waits) (hFlag : opt.IsFlag)
    (hTakes : other.takesValue = true) {attached : Option String}
    (hNext : reading.value other attached = .ok next) :
    next.Waits ∧ (next.has opt = true ↔ reading.has opt = true) := by
  unfold value at hNext
  split at hNext
  · cases hNext
  · next settled hSettled =>
      obtain ⟨hNone, hSame⟩ := has_of_settle hWaits hFlag hSettled
      split at hNext
      · obtain ⟨hPending, hHas⟩ := has_of_accept opt hNext
        exact ⟨waits_of_none (hPending.trans hNone),
          (hHas.trans (or_iff_left (hFlag.ne hTakes))).trans hSame⟩
      · obtain rfl := Except.ok.inj hNext
        refine ⟨?_, hSame⟩
        rintro entry ⟨⟩
        exact hTakes

/-- A long word sets the flag that it names. With a value attached it names none. -/
theorem has_of_long (hWaits : reading.Waits) (hFlag : opt.IsFlag) {name : String}
    {attached : Option String} (hNext : reading.long options name attached = .ok next) :
    next.Waits ∧ (next.has opt = true ↔
      reading.has opt = true ∨ name = opt.long ∧ attached = none) := by
  unfold long at hNext
  split at hNext
  · cases hNext
  · next other hFind =>
      obtain rfl : other.long = name := by simpa using List.find?_some hFind
      have hSame : other.long = opt.long ↔ other = opt := ⟨Opt.long_injective, congrArg _⟩
      split at hNext
      · next hTakes =>
          obtain ⟨hNextWaits, hHas⟩ := has_of_value hWaits hFlag hTakes hNext
          refine ⟨hNextWaits, hHas.trans (or_iff_left ?_).symm⟩
          exact fun hOwn => hFlag.ne hTakes (hSame.mp hOwn.1)
      · split at hNext
        · cases hNext
        · next hAttached =>
            obtain ⟨hNextWaits, hHas⟩ := has_of_switch hWaits hFlag hNext
            refine ⟨hNextWaits, hHas.trans (or_congr_right ?_)⟩
            rw [hSame, and_iff_left (by simpa using hAttached)]

theorem has_of_short (hWaits : reading.Waits) (hFlag : opt.IsFlag) {letters : List Char}
    (hNext : reading.short options letters = .ok next) :
    next.Waits ∧ (next.has opt = true ↔ reading.has opt = true) := by
  induction letters generalizing reading with
  | nil =>
      obtain rfl := Except.ok.inj hNext
      exact ⟨hWaits, Iff.rfl⟩
  | cons letter letters ih =>
      rw [short] at hNext
      split at hNext
      · cases hNext
      · next other hFind =>
          split at hNext
          · next hTakes => exact has_of_value hWaits hFlag hTakes hNext
          · split at hNext
            · cases hNext
            · next switched hSwitch =>
                have hOther : other ≠ opt := by
                  rintro rfl
                  have hLetter := List.find?_some hFind
                  rw [hFlag.2] at hLetter
                  cases hLetter
                obtain ⟨hSwitched, hHas⟩ := has_of_switch hWaits hFlag hSwitch
                obtain ⟨hNextWaits, hRest⟩ := ih hSwitched hNext
                exact ⟨hNextWaits, hRest.trans (hHas.trans (or_iff_left hOther))⟩

/-- A word that is accepted sets a flag if it is the flag's own, and else leaves the flag alone. -/
theorem has_of_word (hWaits : reading.Waits) (hFlag : opt.IsFlag) {text : String}
    (hNext : reading.word options (Word.ofText text) = .ok next) :
    next.Waits ∧ (next.has opt = true ↔ reading.has opt = true ∨ text = opt.word) := by
  have hOwn : text = opt.word ↔ Word.ofText text = .long opt.long none :=
    ⟨fun hText => hText ▸ Word.ofText_word opt, Word.eq_of_ofText⟩
  rw [hOwn]
  cases hWord : Word.ofText text with
  | divider =>
      rw [hWord] at hNext
      obtain rfl := Except.ok.inj hNext
      exact ⟨hWaits, by simp⟩
  | long name attached =>
      rw [hWord] at hNext
      simpa using has_of_long hWaits hFlag hNext
  | short letters =>
      rw [hWord] at hNext
      simpa using has_of_short hWaits hFlag hNext
  | plain text =>
      rw [hWord, word, plain] at hNext
      split at hNext
      · next waiting hPending =>
          obtain rfl := Except.ok.inj hNext
          refine ⟨?_, by simp [has]⟩
          rintro entry ⟨⟩
          exact hWaits (waiting, none) hPending
      · cases hNext

/-- A flag is set after the words if it was before or its word is among them. By induction on the
words, where only options with values ever wait. -/
theorem has_of_words (hWaits : reading.Waits) (hFlag : opt.IsFlag) {texts : List String}
    (hNext : reading.words options texts = .ok next) :
    next.has opt = true ↔ reading.has opt = true ∨ opt.word ∈ texts := by
  induction texts generalizing reading with
  | nil => simpa using (has_of_settle hWaits hFlag hNext).2
  | cons text texts ih =>
      rw [words] at hNext
      split at hNext
      · next hDivider =>
          have hText : opt.word ≠ text := by
            rintro rfl
            rw [Word.ofText_word] at hDivider
            cases hDivider
          split at hNext
          · next hNil =>
              obtain rfl := List.isEmpty_iff.mp hNil
              simpa [hText] using (has_of_settle hWaits hFlag hNext).2
          · cases hNext
      · split at hNext
        · cases hNext
        · next after hWord =>
            obtain ⟨hAfter, hHas⟩ := has_of_word hWaits hFlag hWord
            rw [ih hAfter hNext, hHas, List.mem_cons, or_assoc, @eq_comm _ text]

/-- No flag is among the options in front of the name of a command. -/
theorem ne_of_leading (hFlag : opt.IsFlag) {text : String}
    (hNext : reading.word leadingOptions (Word.ofText text) = .ok next) : text ≠ opt.word := by
  rintro rfl
  rw [Word.ofText_word, word, long] at hNext
  split at hNext
  · cases hNext
  · next other hFind =>
      obtain rfl : other = opt := Opt.long_injective (by simpa using List.find?_some hFind)
      have hMem := List.mem_of_find?_eq_some hFind
      have hLetter : ∀ leading ∈ leadingOptions, leading.short? ≠ none := by decide
      exact hLetter _ hMem hFlag.2

end Reading

end Stencil.Command

namespace Stencil.Invocation

open Command (Opt Reading Scope Word)

theorem exists_of_ofScope {leading : Reading} {scope : Scope} {arguments : List String}
    {invocation : Invocation} (hInvocation : ofScope leading scope arguments = .ok invocation) :
    ∃ reading, Reading.words {} scope.options arguments = .ok reading ∧
      Command.ofReading? scope reading = some invocation.command := by
  unfold ofScope at hInvocation
  split at hInvocation
  · cases hInvocation
  · next reading hReading =>
      split at hInvocation
      · next command _ hCommand =>
          obtain rfl := Except.ok.inj hInvocation
          exact ⟨reading, hReading, hCommand⟩
      · cases hInvocation
      · cases hInvocation

/-- An accepted command line has a name of a command, and the flags all stand behind it. -/
theorem exists_of_ofWords {leading : Reading} {arguments : List String} {invocation : Invocation}
    (hInvocation : ofWords leading arguments = .ok invocation) :
    ∃ leading' scope rest, ofScope leading' scope rest = .ok invocation ∧
      ∀ opt : Opt, opt.IsFlag → (opt.word ∈ arguments ↔ opt.word ∈ rest) := by
  induction arguments generalizing leading with
  | nil => cases hInvocation
  | cons text rest ih =>
      unfold ofWords at hInvocation
      split at hInvocation
      · split at hInvocation <;> cases hInvocation
      · next name hName =>
          split at hInvocation
          · next scope _ =>
              refine ⟨leading, scope, rest, hInvocation, fun opt _ => ?_⟩
              have hText : opt.word ≠ text := by
                rintro rfl
                rw [Word.ofText_word] at hName
                cases hName
              rw [List.mem_cons, or_iff_right hText]
          · split at hInvocation
            · cases hInvocation
            · cases hInvocation
      · split at hInvocation
        · cases hInvocation
        · next after hWord =>
            obtain ⟨leading', scope, behind, hScope, hBehind⟩ := ih hInvocation
            refine ⟨leading', scope, behind, hScope, fun opt hFlag => ?_⟩
            rw [List.mem_cons, or_iff_right (Reading.ne_of_leading hFlag hWord).symm,
              hBehind opt hFlag]

/-- The flags of a run are those whose words are on its command line. -/
structure SetBy (arguments : List String) (run : RunOptions) : Prop where
  processTemplates : run.processTemplates = true ↔ "--process-templates" ∈ arguments
  onlyTemplates : run.onlyTemplates = true ↔ "--only-templates" ∈ arguments
  literal : run.literal = true ↔ "--literal" ∈ arguments
  dryRun : run.dryRun = true ↔ "--dry-run" ∈ arguments
  diffs : run.diffs = true ↔ "--diff" ∈ arguments

/-- An accepted command line sets each flag of a run just where its word is among the arguments. -/
theorem setBy_of_parse {arguments : List String} {target : Path} {run : RunOptions}
    {verbose quiet : Bool}
    (hParse : parse arguments = .ok ⟨.template target run, verbose, quiet⟩) :
    SetBy arguments run := by
  obtain ⟨leading, scope, rest, hScope, hRest⟩ := exists_of_ofWords hParse
  obtain ⟨reading, hReading, hCommand⟩ := exists_of_ofScope hScope
  have hFlag (opt : Opt) (hOpt : opt.IsFlag) :
      reading.has opt = true ↔ opt.word ∈ arguments := by
    rw [hRest opt hOpt, Reading.has_of_words (Reading.waits_of_none rfl) hOpt hReading]
    simp [Reading.has]
  obtain rfl : run = RunOptions.ofReading reading := by
    cases scope with
    | template =>
        obtain ⟨_, -, hSame⟩ := Option.map_eq_some_iff.mp hCommand
        exact (Command.template.inj hSame).2.symm
    | clone =>
        rw [Command.ofReading?] at hCommand
        split at hCommand <;> cases hCommand
    | generate => cases hCommand
    | setup => cases hCommand
  exact ⟨hFlag .processTemplates ⟨rfl, rfl⟩, hFlag .onlyTemplates ⟨rfl, rfl⟩,
    hFlag .literal ⟨rfl, rfl⟩, hFlag .dryRun ⟨rfl, rfl⟩, hFlag .diffs ⟨rfl, rfl⟩⟩

end Stencil.Invocation
