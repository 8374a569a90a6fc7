import Stencil.Proofs.Diff.Hunk
import Stencil.Proofs.Text.Blank

/-! What a shown difference looks like, and what it tells. The colour and the mark in front of a line
say what became of it, and rows of dashes stand between the hunks. Nothing that a line holds can be
taken for any of these: a line ends where it first can, and what stands behind it tells whether the
end is its own. So a text that is shown tells the hunks that it was made from. -/

namespace Stencil

namespace Text

/-- Whether a character ends a line, alone or with another behind it. -/
def endsLine (c : Char) : Bool := c == '\n' || c == '\r'

/-- The end of a line, and what is put behind the line when it is shown: a line feed if it has no
end. -/
inductive Closes : List Char → List Char → Prop
  | bare : Closes [] ['\n']
  | own {ending : List Char}
      (hEnding : ending = ['\n'] ∨ ending = ['\r'] ∨ ending = ['\r', '\n']) : Closes ending []

/-- A line has an end at its end and nowhere before. -/
def IsLine (line : List Char) : Prop :=
  ∃ body ending tail, line = body ++ ending ∧ (∀ c ∈ body, endsLine c = false) ∧
    Closes ending tail

theorem IsLine.cons {c : Char} {line : List Char} (hChar : endsLine c = false)
    (hLine : IsLine line) : IsLine (c :: line) := by
  obtain ⟨body, ending, tail, rfl, hBody, hEnding⟩ := hLine
  exact ⟨c :: body, ending, tail, rfl, List.forall_mem_cons.mpr ⟨hChar, hBody⟩, hEnding⟩

/-- What a text is divided into are lines. -/
theorem isLine_of_mem_lines {text line : List Char} (hLine : line ∈ lines text) : IsLine line := by
  fun_induction lines text generalizing line with
  | case1 => cases hLine
  | case2 rest ih =>
      rcases List.mem_cons.mp hLine with rfl | hLater
      · exact ⟨[], _, [], rfl, List.forall_mem_nil _, .own (.inr (.inr rfl))⟩
      · exact ih hLater
  | case3 c rest _ hEnd ih =>
      rcases List.mem_cons.mp hLine with rfl | hLater
      · refine ⟨[], [c], [], rfl, List.forall_mem_nil _, .own ?_⟩
        rcases Bool.or_eq_true_iff.mp hEnd with hFeed | hReturn
        · exact .inl (by rw [of_decide_eq_true hFeed])
        · exact .inr (.inl (by rw [of_decide_eq_true hReturn]))
      · exact ih hLater
  | case4 c rest _ hEnd ih =>
      have hChar : endsLine c = false := by simpa [endsLine] using hEnd
      cases hLines : lines rest with
      | nil =>
          rw [hLines] at hLine
          obtain rfl := List.mem_singleton.mp hLine
          exact ⟨[c], [], ['\n'], rfl, by simpa using hChar, .bare⟩
      | cons first more =>
          rw [hLines] at hLine ih
          rcases List.mem_cons.mp hLine with rfl | hLater
          · exact (ih List.mem_cons_self).cons hChar
          · exact ih (List.mem_cons_of_mem _ hLater)

theorem hasLineEnd_append {body ending tail : List Char} (hBody : ∀ c ∈ body, endsLine c = false)
    (hEnding : Closes ending tail) :
    (if hasLineEnd (body ++ ending) then [] else ['\n']) = tail := by
  cases hEnding with
  | bare =>
      rw [List.append_nil, hasLineEnd]
      cases hLast : body.getLast? with
      | none => rfl
      | some c =>
          have hPlain := hBody c (List.mem_of_getLast? hLast)
          rw [endsLine] at hPlain
          simp [hPlain]
  | own hOwn => rcases hOwn with rfl | rfl | rfl <;> simp [hasLineEnd]

end Text

namespace Diff

open Text (Closes IsLine endsLine)

/-- What tells a sign: no colour and two blanks, red and a minus, or green and a plus. -/
inductive Marks : Sign → String → Prop
  | kept : Marks .kept "\x1b[0m  "
  | removed : Marks .removed "\x1b[31m- "
  | added : Marks .added "\x1b[32m+ "

/-- A text that shows hunks. Each line stands behind its colour and its mark, with the colour taken
back after it, and ends even if it has no end of its own. A row of dashes stands in front of each
hunk but the first. -/
inductive Shows : List (List (Sign × List Char)) → List Char → Prop
  | finished : Shows [[]] []
  | line {sign : Sign} {mark : String} {body ending tail rest : List Char}
      {hunk : List (Sign × List Char)} {hunks : List (List (Sign × List Char))}
      (hMark : Marks sign mark) (hBody : ∀ c ∈ body, endsLine c = false)
      (hEnding : Closes ending tail) (hLater : Shows (hunk :: hunks) rest) :
      Shows (((sign, body ++ ending) :: hunk) :: hunks)
        (mark.toList ++ (body ++ (ending ++ ("\x1b[0m".toList ++ (tail ++ rest)))))
  | gap {hunk : List (Sign × List Char)} {hunks : List (List (Sign × List Char))}
      {rest : List Char} (hLater : Shows (hunk :: hunks) rest) :
      Shows ([] :: hunk :: hunks) (List.replicate 40 '-' ++ ('\n' :: rest))

theorem marks_opening (sign : Sign) : Marks sign sign.opening := by
  cases sign
  · exact .kept
  · exact .removed
  · exact .added

/-- Lines are shown as they are rendered. -/
theorem shows_renderLines {hunk : List (Sign × List Char)} (hLines : ∀ line ∈ hunk, IsLine line.2)
    {hunks : List (List (Sign × List Char))} {rest : List Char} (hLater : Shows ([] :: hunks) rest) :
    Shows (hunk :: hunks) (hunk.flatMap renderLine ++ rest) := by
  induction hunk with
  | nil => exact hLater
  | cons line hunk ih =>
      obtain ⟨hHere, hOthers⟩ := List.forall_mem_cons.mp hLines
      obtain ⟨sign, text⟩ := line
      obtain ⟨body, ending, tail, rfl, hBody, hEnding⟩ := hHere
      have hShown := Shows.line (marks_opening sign) hBody hEnding (ih hOthers)
      rw [← Text.hasLineEnd_append hBody hEnding] at hShown
      simpa only [List.flatMap_cons, renderLine, List.append_assoc] using hShown

theorem shows_intercalate {hunks : List (List (Sign × List Char))} (hHunks : hunks ≠ [])
    (hLines : ∀ hunk ∈ hunks, ∀ line ∈ hunk, IsLine line.2) :
    Shows hunks (separator.intercalate (hunks.map fun hunk => hunk.flatMap renderLine)) := by
  induction hunks with
  | nil => exact absurd rfl hHunks
  | cons hunk hunks ih =>
      obtain ⟨hHere, hOthers⟩ := List.forall_mem_cons.mp hLines
      cases hunks with
      | nil => simpa using shows_renderLines hHere .finished
      | cons next hunks =>
          have hGap := Shows.gap (ih (List.cons_ne_nil _ _) hOthers)
          have hShown := shows_renderLines hHere hGap
          simpa [List.intercalate_cons_cons, separator] using hShown

/-- What is shown is nothing, or begins with a dash or a mark. -/
theorem Shows.start {hunks : List (List (Sign × List Char))} {text : List Char}
    (hShows : Shows hunks text) :
    text = [] ∨ (∃ rest, text = '-' :: rest) ∨
      ∃ sign mark rest, Marks sign mark ∧ text = mark.toList ++ rest := by
  cases hShows with
  | finished => exact .inl rfl
  | line hMark => exact .inr (.inr ⟨_, _, _, hMark, rfl⟩)
  | gap => exact .inr (.inl ⟨_, rfl⟩)

/-- What is shown next is never taken for the end of a colour with more behind it. -/
theorem Shows.ne_reset_append {hunks hunks' : List (List (Sign × List Char))} {text rest : List Char}
    (hShows : Shows hunks text) (hRest : Shows hunks' rest) : text ≠ "\x1b[0m".toList ++ rest := by
  intro hSame
  rcases hShows.start with rfl | ⟨_, rfl⟩ | ⟨_, _, more, hMark, rfl⟩
  · simp at hSame
  · simp at hSame
  · cases hMark with
    | kept =>
        have hBlank : rest = ' ' :: ' ' :: more := by simpa using hSame.symm
        rcases hRest.start with hNone | ⟨_, hDash⟩ | ⟨_, _, _, hMark, hText⟩
        · simp [hBlank] at hNone
        · simp [hBlank] at hDash
        · cases hMark <;> simp [hBlank] at hText
    | removed => simp at hSame
    | added => simp at hSame

/-- A text is cut in one way where characters of one kind stop. -/
theorem cut_unique {p : Char → Bool} {front front' after after' : List Char}
    (hFront : ∀ c ∈ front, p c = true) (hFront' : ∀ c ∈ front', p c = true)
    (hAfter : ∀ c ∈ after.head?, p c = false) (hAfter' : ∀ c ∈ after'.head?, p c = false)
    (hSame : front ++ after = front' ++ after') : front = front' ∧ after = after' := by
  have hTaken := congrArg (List.takeWhile p) hSame
  have hLeft := congrArg (List.dropWhile p) hSame
  rw [Text.takeWhile_append_of_stop hFront hAfter,
    Text.takeWhile_append_of_stop hFront' hAfter'] at hTaken
  rw [Text.dropWhile_append_of_stop hFront hAfter,
    Text.dropWhile_append_of_stop hFront' hAfter'] at hLeft
  exact ⟨hTaken, hLeft⟩

/-- The end of a colour ends no line. Behind a line without an end it stands on that line. -/
theorem not_endsLine_reset {body : List Char} (hBody : ∀ c ∈ body, endsLine c = false) :
    ∀ c ∈ body ++ "\x1b[0m".toList, endsLine c = false :=
  List.forall_mem_append.mpr ⟨hBody, by simp [endsLine]⟩

section Line

variable {body body' ending ending' tail tail' rest rest' : List Char}
  (hBody : ∀ c ∈ body, endsLine c = false) (hBody' : ∀ c ∈ body', endsLine c = false)

include hBody hBody'

/-- Lines are told apart up to where each of them ends first. -/
theorem eq_of_first_end (hAfter : ∀ c ∈ ending.head?, endsLine c = true)
    (hAfter' : ∀ c ∈ ending'.head?, endsLine c = true)
    (hSame : body ++ ending = body' ++ ending') : body = body' ∧ ending = ending' :=
  cut_unique (p := fun c => !endsLine c) (by simpa using hBody) (by simpa using hBody')
    (by simpa using hAfter) (by simpa using hAfter') hSame

/-- A line without an end is not shown as one with an end: behind the end of its colour stands a line
feed, and no second one behind that. -/
theorem bare_ne_own (hRest : rest ≠ "\x1b[0m".toList ++ rest')
    (hEnding : ending = ['\n'] ∨ ending = ['\r'] ∨ ending = ['\r', '\n']) :
    body ++ ("\x1b[0m".toList ++ '\n' :: rest) ≠
      body' ++ (ending ++ ("\x1b[0m".toList ++ rest')) := by
  intro hSame
  rw [← List.append_assoc body] at hSame
  obtain ⟨-, hBehind⟩ := eq_of_first_end (not_endsLine_reset hBody) hBody' (by simp [endsLine])
    (by rcases hEnding with rfl | rfl | rfl <;> simp [endsLine]) hSame
  rcases hEnding with rfl | rfl | rfl
  · exact hRest ((List.cons_inj_right '\n').mp hBehind)
  · simp at hBehind
  · simp at hBehind

/-- Two lines that are shown alike, whatever is shown next, are the same. -/
theorem line_unique (hEnding : Closes ending tail) (hEnding' : Closes ending' tail')
    (hRest : rest ≠ "\x1b[0m".toList ++ rest') (hRest' : rest' ≠ "\x1b[0m".toList ++ rest)
    (hSame : body ++ (ending ++ ("\x1b[0m".toList ++ (tail ++ rest))) =
      body' ++ (ending' ++ ("\x1b[0m".toList ++ (tail' ++ rest')))) :
    body = body' ∧ ending = ending' ∧ rest = rest' := by
  cases hEnding with
  | bare =>
      cases hEnding' with
      | bare =>
          rw [List.nil_append, ← List.append_assoc, List.nil_append, ← List.append_assoc body']
            at hSame
          obtain ⟨hFront, hBehind⟩ := eq_of_first_end (not_endsLine_reset hBody)
            (not_endsLine_reset hBody') (by simp [endsLine]) (by simp [endsLine]) hSame
          exact ⟨List.append_cancel_right hFront, rfl, List.append_cancel_left hBehind⟩
      | own hOwn => exact absurd hSame (bare_ne_own hBody hBody' hRest hOwn)
  | own hOwn =>
      cases hEnding' with
      | bare => exact absurd hSame.symm (bare_ne_own hBody' hBody hRest' hOwn)
      | own hOwn' =>
          obtain ⟨hFront, hBehind⟩ := eq_of_first_end hBody hBody'
            (by rcases hOwn with rfl | rfl | rfl <;> simp [endsLine])
            (by rcases hOwn' with rfl | rfl | rfl <;> simp [endsLine]) hSame
          rcases hOwn with rfl | rfl | rfl <;> rcases hOwn' with rfl | rfl | rfl <;>
            simp_all

end Line

theorem marks_unique {sign sign' : Sign} {mark mark' : String} {rest rest' : List Char}
    (hMark : Marks sign mark) (hMark' : Marks sign' mark')
    (hSame : mark.toList ++ rest = mark'.toList ++ rest') : sign = sign' ∧ rest = rest' := by
  cases hMark <;> cases hMark' <;> simp_all

/-- A text shows the hunks of one difference only. -/
theorem Shows.unique {hunks hunks' : List (List (Sign × List Char))} {text : List Char}
    (hShows : Shows hunks text) (hShows' : Shows hunks' text) : hunks = hunks' := by
  generalize hText : text = text' at hShows'
  induction hShows generalizing hunks' text' with
  | finished =>
      cases hShows' with
      | finished => rfl
      | line hMark => cases hMark <;> simp at hText
      | gap => simp at hText
  | line hMark hBody hEnding hLater ih =>
      cases hShows' with
      | finished => cases hMark <;> simp at hText
      | line hMark' hBody' hEnding' hLater' =>
          obtain ⟨rfl, hLine⟩ := marks_unique hMark hMark' hText
          obtain ⟨rfl, rfl, hRest⟩ := line_unique hBody hBody' hEnding hEnding'
            (hLater.ne_reset_append hLater') (hLater'.ne_reset_append hLater) hLine
          obtain ⟨rfl, rfl⟩ := List.cons_eq_cons.mp (ih _ hRest hLater')
          rfl
      | gap => cases hMark <;> simp at hText
  | gap hLater ih =>
      cases hShows' with
      | finished => simp at hText
      | line hMark => cases hMark <;> simp at hText
      | gap hLater' =>
          have hRest := List.append_cancel_left hText
          rw [ih _ ((List.cons_inj_right '\n').mp hRest) hLater']

theorem patches_lines {old new : String} {hunks : List (List (Sign × List Char))}
    (hPatches : Patches hunks (Text.lines old.toList) (Text.lines new.toList)) :
    ∀ hunk ∈ hunks, ∀ line ∈ hunk, IsLine line.2 := fun _ hHunk _ hLine =>
  (hPatches.mem_of_mem hHunk hLine).elim Text.isLine_of_mem_lines Text.isLine_of_mem_lines

/-- A difference is shown unless the texts are the same. -/
theorem render_eq_none_iff {old new : String} : render old new = none ↔ old = new := by
  constructor
  · intro hNone
    rw [render] at hNone
    split at hNone
    · cases hNone
    · next hKept => exact eq_of_kept (by simpa using hKept)
  · rintro rfl
    simp [render, hunks_scriptOfTexts_self]

/-- The difference that is shown is a patch: it leads from the lines of the old text to those of the
new one, hunk by hunk, and passes over nothing but what both have. The text tells for each line of
the patch what became of it, and it tells no other hunks. There is one unless the texts are the
same. -/
theorem shown_difference_is_patch (old new : String) :
    (render old new = none ↔ old = new) ∧
    ∃ hunks : List (List (Sign × List Char)),
      Patches hunks (Text.lines old.toList) (Text.lines new.toList) ∧
      ∀ text, render old new = some text →
        Shows hunks text.toList ∧ ∀ other, Shows other text.toList → other = hunks := by
  have hPatches := patches_scriptOfTexts old new
  refine ⟨render_eq_none_iff, _, hPatches, fun text hText => ?_⟩
  rw [render] at hText
  split at hText
  · next hChanged =>
      obtain rfl := Option.some.inj hText
      have hHunks : (scriptOfTexts old new).hunks.map Hunk.lines ≠ [] := by
        intro hNone
        rw [List.map_eq_nil_iff.mp hNone] at hChanged
        cases hChanged
      have hShows := shows_intercalate hHunks (patches_lines hPatches)
      rw [List.map_map] at hShows
      rw [String.toList_ofList]
      exact ⟨hShows, fun other hOther => hOther.unique hShows⟩
  · cases hText

/-- A line is replaced, and the last one has no end. -/
example : render "a\nb\nc" "a\nx\nc" = some ("\x1b[0m  a\n\x1b[0m" ++ "\x1b[31m- b\n\x1b[0m" ++
    "\x1b[32m+ x\n\x1b[0m" ++ "\x1b[0m  c\x1b[0m\n") := by decide +kernel

end Diff

end Stencil
