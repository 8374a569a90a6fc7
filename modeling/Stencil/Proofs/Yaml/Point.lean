import Stencil.Proofs.Text.Blank
import Stencil.Proofs.Yaml.Cursor
import Stencil.Yaml.Scan

/-! The scan followed from point to point. Of a point only its column counts, and not its line or how
many characters precede it; what is scanned from one point on is what is scanned from the point it
leads to. -/

namespace Stencil.Yaml

open Render (spaces)

namespace Cursor

variable {text rest : List Char} {mark : Mark}

theorem skipWhile_of_head {p : Char → Bool} (hHead : ∀ c ∈ text.head?, p c = false) :
    skipWhile ⟨text, mark⟩ p = ⟨text, mark⟩ := by
  cases text with
  | nil => rfl
  | cons c text =>
      simp [skipWhile, hHead c rfl]
      rfl

theorem skipComment_of_head (hHead : text.head? ≠ some '#') :
    skipComment ⟨text, mark⟩ = ⟨text, mark⟩ := by
  unfold skipComment
  split
  · next hText => simp [show text = _ from hText] at hHead
  · rfl

theorem lineEnd?_of_isSolid (hSolid : isSolid text = true) : lineEnd? ⟨text, mark⟩ = none := by
  cases text with
  | nil => rfl
  | cons c text => exact lineEnd?_of_not_isBreak (isSolid_cons hSolid).2.1

end Cursor

namespace Scan

/-- Spaces are passed over. -/
theorem toNext_content {text : List Char} (mark : Mark) (keyAllowed : Bool)
    (hSolid : isSolid (content text) = true) :
    toNext false ⟨text, mark⟩ keyAllowed =
      (⟨content text, mark.along (margin text)⟩, keyAllowed) := by
  have hMark : text.head? ≠ some '\uFEFF' := by
    intro hMark
    obtain ⟨rest, rfl⟩ := List.head?_eq_some_iff.mp hMark
    rw [content_of_ne (by decide)] at hSolid
    exact (isSolid_cons hSolid).2.2.2 rfl
  have hStarted : (mark.column == 0 && text.head? == some '\uFEFF') = false := by simp [hMark]
  have hStop : ∀ c ∈ (content text).head?, isBlank c = false ∧ c ≠ '#' := by
    intro c hMem
    obtain ⟨rest, hText⟩ := List.head?_eq_some_iff.mp hMem
    rw [hText] at hSolid
    exact ⟨(isSolid_cons hSolid).1, (isSolid_cons hSolid).2.2.1⟩
  have hTake : (text.takeWhile fun c => c == ' ' || ((false || !keyAllowed) && c == '\t')) =
      spaces (margin text) := by
    have hTake : ((spaces (margin text) ++ content text).takeWhile fun c =>
        c == ' ' || ((false || !keyAllowed) && c == '\t')) = spaces (margin text) :=
      Text.takeWhile_append_of_stop (fun c hMem => by simp [List.eq_of_mem_replicate hMem])
      (fun c hMem => by
        have hBlank := (hStop c hMem).1
        simp only [isBlank, Bool.or_eq_false_iff] at hBlank
        simp [hBlank])
    rwa [spaces_append_content] at hTake
  have hSpaces : Cursor.skipWhile ⟨text, mark⟩
      (fun c => c == ' ' || ((false || !keyAllowed) && c == '\t')) =
        ⟨content text, mark.along (margin text)⟩ := by
    have hDrop : (spaces (margin text) ++ content text).drop (margin text) = content text :=
      List.drop_left' List.length_replicate
    rw [spaces_append_content] at hDrop
    rw [Cursor.skipWhile, hTake, Cursor.skip, spaces, List.length_replicate, hDrop]
  rw [toNext]
  simp only [hStarted, Bool.false_eq_true, if_false, hSpaces]
  rw [Cursor.skipComment_of_head, Cursor.lineEnd?_of_isSolid hSolid]
  intro hComment
  exact (hStop '#' hComment).2 rfl

theorem toNext_of_isSolid {text : List Char} (mark : Mark) (keyAllowed : Bool)
    (hSolid : isSolid text = true) :
    toNext false ⟨text, mark⟩ keyAllowed = (⟨text, mark⟩, keyAllowed) := by
  have hText := content_of_isSolid hSolid
  have hNext := toNext_content mark keyAllowed (hText.symm ▸ hSolid)
  rwa [hText, margin_of_isSolid hSolid] at hNext

/-- Behind the end of a line a key may begin. -/
theorem toNext_lineEnd {lines : List Char} (mark : Mark) (keyAllowed : Bool)
    (hSolid : isSolid (content lines) = true) :
    toNext false ⟨'\n' :: lines, mark⟩ keyAllowed =
      (⟨content lines, (mark.nextLine 1).along (margin lines)⟩, true) := by
  have hSpaces : Cursor.skipWhile ⟨'\n' :: lines, mark⟩
      (fun c => c == ' ' || ((false || !keyAllowed) && c == '\t')) = ⟨'\n' :: lines, mark⟩ :=
    Cursor.skipWhile_of_head (by simp)
  have hStarted : (mark.column == 0 && ('\n' :: lines).head? == some '\uFEFF') = false := by simp
  have hComment : Cursor.skipComment ⟨'\n' :: lines, mark⟩ = ⟨'\n' :: lines, mark⟩ :=
    Cursor.skipComment_of_head (by simp)
  rw [toNext]
  simp only [hStarted, Bool.false_eq_true, if_false, hSpaces, hComment]
  rw [Cursor.lineEnd?_break rfl (by decide)]
  simp [toNext_content _ _ hSolid]

/-- The scan where its next token begins: behind what is passed over, without keys that lie too far
back, and with the blocks ended that begin further right. -/
def settle? (scan : Scan) : Option Scan :=
  let (cursor, keyAllowed) := toNext scan.inFlow scan.cursor scan.keyAllowed
  { scan with cursor, keyAllowed }.dropStale?.map fun (fresh : Scan) =>
    fresh.unroll fresh.column

theorem run_eq (scan : Scan) :
    scan.run = scan.settle?.bind fun next =>
      match next.cursor.text with
      | [] => next.endBlocks?.map fun scan => .streamEnd :: scan.tokens
      | c :: rest => (next.token? c rest).bind fun after =>
          if after.cursor.text.length < scan.cursor.text.length then after.run else none := by
  rw [run, settle?]
  dsimp only
  split
  · next hStale => rw [hStale]; rfl
  · next fresh hFresh =>
      rw [hFresh]
      dsimp only [Option.map_some, Option.bind_some]
      cases hText : (fresh.unroll fresh.column).cursor.text with
      | nil => rfl
      | cons c rest => cases hToken : (fresh.unroll fresh.column).token? c rest <;> simp [hToken]

variable {scan scan' next after : Scan} {c : Char} {rest : List Char} {found : List RawToken}

/-- A scan goes on behind its next token. -/
theorem run_of_token? (hSettle : scan.settle? = some next) (hText : next.cursor.text = c :: rest)
    (hToken : next.token? c rest = some after)
    (hShorter : after.cursor.text.length < scan.cursor.text.length) : scan.run = after.run := by
  rw [run_eq, hSettle]
  simp [hText, hToken, hShorter]

/-- Scans with the same next token have the same tokens, wherever they stand in front of it. -/
theorem run_of_settle?_eq (hSame : scan.settle? = scan'.settle?)
    (hShorter : scan'.cursor.text.length ≤ scan.cursor.text.length)
    (hRun : scan'.run = some found) : scan.run = some found := by
  rw [run_eq] at hRun ⊢
  rw [hSame]
  obtain ⟨next, hSettle, hNext⟩ := Option.bind_eq_some_iff.mp hRun
  rw [hSettle, Option.bind_some]
  split at hNext
  · exact hNext
  · next c rest hText =>
      obtain ⟨after, hToken, hAfter⟩ := Option.bind_eq_some_iff.mp hNext
      split at hAfter
      · next hLess => simp [hToken, Nat.lt_of_lt_of_le hLess hShorter, hAfter]
      · cases hAfter

theorem closeBlocks_of_le {column indent : Int} (hLe : indent ≤ column) (tokens : List RawToken)
    (outer : List Int) : closeBlocks column indent tokens outer = (indent, tokens, outer) := by
  cases outer with
  | nil => rfl
  | cons next outer => rw [closeBlocks, if_neg (by omega)]

theorem unroll_of_le {column : Int} (hLe : scan.indent ≤ column) : scan.unroll column = scan := by
  rw [unroll]
  split
  · rfl
  · rw [closeBlocks_of_le hLe]

/-- Outside of flow collections a scan settles where its cursor comes to. -/
theorem settle?_of_toNext {cursor : Cursor} {keyAllowed : Bool} {key : Option PossibleKey}
    (hFlow : scan.outerKeys = [])
    (hNext : toNext false scan.cursor scan.keyAllowed = (cursor, keyAllowed))
    (hKey : refresh? cursor.mark scan.key = some key) :
    scan.settle? = some ({ scan with cursor, keyAllowed, key }.unroll cursor.mark.column) := by
  have hInFlow : scan.inFlow = false := by simp [inFlow, hFlow]
  rw [settle?, hInFlow, hNext]
  simp [dropStale?, hKey, hFlow, column]

/-- A scan is settled where a token begins and no key lies too far back. -/
theorem settle?_self (hFlow : scan.outerKeys = []) (hSolid : isSolid scan.cursor.text = true)
    (hKey : refresh? scan.cursor.mark scan.key = some scan.key)
    (hIndent : scan.indent ≤ scan.column) :
    scan.settle? = some scan := by
  have hNext := toNext_of_isSolid scan.cursor.mark scan.keyAllowed hSolid
  rw [settle?_of_toNext hFlow hNext hKey]
  exact congrArg some (unroll_of_le hIndent)

end Scan

/-- What the rest of a scan depends on where no key has begun, outside of flow collections. -/
structure Point where
  column : Nat
  text : List Char
  tokens : List RawToken
  indent : Int
  outer : List Int
  keyAllowed : Bool

namespace Point

/-- A scan at a point. -/
def scan (point : Point) (index line : Nat) : Scan where
  cursor := ⟨point.text, ⟨index, line, point.column⟩⟩
  tokens := point.tokens
  indent := point.indent
  outer := point.outer
  keyAllowed := point.keyAllowed
  key := none
  outerKeys := []

/-- These are the tokens that a scan from a point on finds in the end. -/
def Yields (point : Point) (found : List RawToken) : Prop :=
  ∀ index line, (point.scan index line).run = some found

/-- What is found from a point on is found from one in front of it. -/
def Leads (point point' : Point) : Prop := ∀ found, point'.Yields found → point.Yields found

variable {point point' point'' : Point}

namespace Leads

theorem refl (point : Point) : Leads point point := fun _ => id

theorem trans (hLeads : Leads point point') (hLeads' : Leads point' point'') :
    Leads point point'' := fun found hYields => hLeads found (hLeads' found hYields)

/-- It is enough that scans at both places settle in the same way. -/
theorem of_settle? (hShorter : point'.text.length ≤ point.text.length)
    (hSame : ∀ index line, ∃ index' line',
      (point.scan index line).settle? = (point'.scan index' line').settle?) :
    Leads point point' := by
  intro found hYields index line
  obtain ⟨index', line', hSettle⟩ := hSame index line
  exact Scan.run_of_settle?_eq hSettle hShorter (hYields index' line')

/-- Scans at both places find the same. -/
theorem of_run (hSame : ∀ index line, ∃ index' line',
    (point.scan index line).run = (point'.scan index' line').run) : Leads point point' := by
  intro found hYields index line
  obtain ⟨index', line', hRun⟩ := hSame index line
  exact hRun.trans (hYields index' line')

/-- Spaces in front of a token. -/
theorem content (hSolid : isSolid (content point.text) = true) :
    Leads point { point with
      column := point.column + margin point.text, text := Yaml.content point.text } := by
  refine of_settle? (length_content_le point.text) fun index line =>
    ⟨index + margin point.text, line, ?_⟩
  have hNext := Scan.toNext_content ⟨index, line, point.column⟩ point.keyAllowed hSolid
  have hNext' := Scan.toNext_of_isSolid
    ⟨index + margin point.text, line, point.column + margin point.text⟩ point.keyAllowed hSolid
  rw [Scan.settle?_of_toNext rfl hNext rfl, Scan.settle?_of_toNext rfl hNext' rfl]
  rfl

theorem space {rest : List Char} (hText : point.text = ' ' :: rest) (hSolid : isSolid rest = true) :
    Leads point { point with column := point.column + 1, text := rest } := by
  have hContent : Yaml.content point.text = rest := by
    rw [hText, content_space, content_of_isSolid hSolid]
  have hMargin : margin point.text = 1 := by rw [hText, margin_space, margin_of_isSolid hSolid]
  have hLeads : Leads point _ := content (by rwa [hContent])
  rwa [hContent, hMargin] at hLeads

/-- The end of a line. -/
theorem lineEnd {lines : List Char} (hText : point.text = '\n' :: lines)
    (hSolid : isSolid (Yaml.content lines) = true) :
    Leads point { point with
      column := margin lines, text := Yaml.content lines, keyAllowed := true } := by
  have hShorter := length_content_le lines
  refine of_settle? (by simp [hText]; omega) fun index line =>
    ⟨index + 1 + margin lines, line + 1, ?_⟩
  have hNext := Scan.toNext_lineEnd ⟨index, line, point.column⟩ point.keyAllowed hSolid
  have hNext' := Scan.toNext_of_isSolid ⟨index + 1 + margin lines, line + 1, margin lines⟩ true hSolid
  rw [← hText, Mark.nextLine, Mark.along, Nat.zero_add] at hNext
  rw [Scan.settle?_of_toNext rfl hNext rfl, Scan.settle?_of_toNext rfl hNext' rfl]
  rfl

/-- The end of a block. -/
theorem close {indent : Int} {outer : List Int} (hOuter : point.outer = indent :: outer)
    (hSolid : isSolid point.text = true) (hLeft : point.column < point.indent) :
    Leads point { point with tokens := .blockEnd :: point.tokens, indent, outer } := by
  refine of_settle? (Nat.le_refl _) fun index line => ⟨index, line, ?_⟩
  have hNext := Scan.toNext_of_isSolid ⟨index, line, point.column⟩ point.keyAllowed hSolid
  rw [Scan.settle?_of_toNext rfl hNext rfl, Scan.settle?_of_toNext rfl hNext rfl]
  simp [Scan.unroll, Scan.inFlow, Point.scan, hOuter, Scan.closeBlocks, hLeft]

end Leads

/-- Where a token begins, a scan is settled. -/
theorem settle?_scan (hSolid : isSolid point.text = true) (hIndent : point.indent ≤ point.column)
    (index line : Nat) : (point.scan index line).settle? = some (point.scan index line) :=
  Scan.settle?_self rfl hSolid rfl hIndent

/-- A point where a mapping has begun, if none had so far right. -/
def opened (point : Point) : Point :=
  if point.indent < point.column then
    { point with
      tokens := .blockMapping :: point.tokens
      indent := point.column
      outer := point.indent :: point.outer }
  else point

@[simp] theorem column_opened : point.opened.column = point.column := by
  rw [opened]
  split_ifs <;> rfl

@[simp] theorem text_opened : point.opened.text = point.text := by
  rw [opened]
  split_ifs <;> rfl

theorem opened_of_lt (hIndent : point.indent < point.column) : point.opened =
    { point with
      tokens := .blockMapping :: point.tokens
      indent := point.column
      outer := point.indent :: point.outer } := if_pos hIndent

theorem opened_of_eq (hIndent : point.indent = point.column) : point.opened = point :=
  if_neg (by omega)

theorem roll_scan (index line : Nat) :
    (point.scan index line).roll point.column point.tokens.length .blockMapping =
      point.opened.scan index line := by
  rw [Scan.roll, opened]
  split_ifs <;> simp_all [Point.scan, Scan.insertAt, Scan.inFlow]

namespace Leads

variable {rest : List Char}

/-- One token, which leaves no key behind. -/
theorem of_token? {c : Char} (hText : point.text = c :: rest) (hSolid : isSolid point.text = true)
    (hIndent : point.indent ≤ point.column) (hShorter : point'.text.length < point.text.length)
    (hToken : ∀ index line, ∃ index' line',
      (point.scan index line).token? c rest = some (point'.scan index' line')) :
    Leads point point' := by
  refine of_run fun index line => ?_
  obtain ⟨index', line', hAfter⟩ := hToken index line
  exact ⟨index', line',
    Scan.run_of_token? (settle?_scan hSolid hIndent index line) hText hAfter hShorter⟩

/-- The sign of an item, in a sequence that begins no further right than what it belongs to. -/
theorem item (hText : point.text = '-' :: ' ' :: rest) (hSolid : isSolid rest = true)
    (hIndent : point.indent = point.column) (hKey : point.keyAllowed = true) :
    Leads point { point with
      column := point.column + 2, text := rest, tokens := .item :: point.tokens } := by
  have hSign : Leads point { point with
      column := point.column + 1, text := ' ' :: rest, tokens := .item :: point.tokens } := by
    refine of_token? hText (by rw [hText]; rfl) (by omega) (by simp [hText]) fun index line =>
      ⟨index + 1, line, ?_⟩
    simp [Scan.token?, Point.scan, hText, atDocumentBound, atGap, isBlank, Scan.blockItem?,
      Scan.inFlow, hKey, Scan.roll, Scan.dropKey?, Scan.column, hIndent, Scan.allowKey, Scan.take,
      Scan.push, Cursor.skip, Mark.along]
  exact hSign.trans (space rfl hSolid)

/-- The sign of a key. -/
theorem explicitKey (hText : point.text = '?' :: ' ' :: rest) (hSolid : isSolid rest = true)
    (hIndent : point.indent ≤ point.column) (hKey : point.keyAllowed = true) :
    Leads point { point.opened with
      column := point.column + 2, text := rest, tokens := .key :: point.opened.tokens
      keyAllowed := true } := by
  have hSign : Leads point { point.opened with
      column := point.column + 1, text := ' ' :: rest, tokens := .key :: point.opened.tokens
      keyAllowed := true } := by
    refine of_token? hText (by rw [hText]; rfl) hIndent (by simp [hText]) fun index line =>
      ⟨index + 1, line, ?_⟩
    have hBegin : (point.scan index line).token? '?' (' ' :: rest) =
        (point.scan index line).explicitKey? := by
      simp [Scan.token?, Point.scan, hText, atDocumentBound, atGap, isBlank]
    have hRoll : (point.scan index line).roll (point.scan index line).column
        (point.scan index line).tokens.length .blockMapping = point.opened.scan index line :=
      roll_scan index line
    have hAllowed : (point.scan index line).keyAllowed = true := hKey
    rw [hBegin, Scan.explicitKey?, if_neg (by simp [Scan.inFlow, Point.scan]), if_pos hAllowed, hRoll]
    simp [Point.scan, hText, Scan.dropKey?, Scan.allowKey, Scan.take, Scan.push, Cursor.skip,
      Mark.along, Scan.inFlow]
  exact hSign.trans (space rfl hSolid)

/-- The sign of a value whose key has a sign of its own. -/
theorem explicitValue (hText : point.text = ':' :: ' ' :: rest) (hSolid : isSolid rest = true)
    (hIndent : point.indent = point.column) (hKey : point.keyAllowed = true) :
    Leads point { point with
      column := point.column + 2, text := rest, tokens := .value :: point.tokens } := by
  have hSign : Leads point { point with
      column := point.column + 1, text := ' ' :: rest, tokens := .value :: point.tokens } := by
    refine of_token? hText (by rw [hText]; rfl) (by omega) (by simp [hText]) fun index line =>
      ⟨index + 1, line, ?_⟩
    simp [Scan.token?, Point.scan, hText, atDocumentBound, atGap, isBlank, Scan.value?,
      Scan.inFlow, hKey, Scan.roll, Scan.column, hIndent, Scan.allowKey, Scan.take,
      Scan.push, Cursor.skip, Mark.along]
  exact hSign.trans (space rfl hSolid)

end Leads

/-- The end of the text, in the only block that has begun. -/
theorem yields_end (hText : point.text = []) (hIndent : point.indent ≤ point.column)
    (hOuter : point.outer = [-1]) (hBegun : 0 ≤ point.indent) :
    point.Yields (.streamEnd :: .blockEnd :: point.tokens) := by
  intro index line
  rw [Scan.run_eq, settle?_scan (by rw [hText]; rfl) hIndent]
  have hLeft : (-1 : Int) < point.indent := by omega
  simp [Point.scan, hText, Scan.endBlocks?, Scan.unroll, Scan.inFlow, hOuter, Scan.closeBlocks, hLeft,
    Scan.dropKey?, Scan.allowKey]

/-- The key that a scalar may turn out to be. -/
def savedKey (point : Point) (index line : Nat) : Option PossibleKey :=
  if point.keyAllowed then
    some ⟨point.tokens.length, ⟨index, line, point.column⟩, decide (point.indent = point.column)⟩
  else none

theorem saveKey?_scan (index line : Nat) : (point.scan index line).saveKey? =
    some { point.scan index line with key := point.savedKey index line } := by
  cases hKey : point.keyAllowed <;>
    simp [Scan.saveKey?, Point.scan, savedKey, hKey, Scan.dropKey?, Scan.inFlow, Scan.column]

/-- A scan behind a scalar that may be a key. -/
def behind (point : Point) (index line : Nat) (cursor : Cursor) (keyAllowed : Bool)
    (text : List Char) (plain : Bool) : Scan :=
  { point.scan index line with
    cursor
    tokens := .scalar text plain :: point.tokens
    keyAllowed
    key := point.savedKey index line }

section Scalar

variable {index line : Nat} {rest text : List Char} {cursor : Cursor}

theorem token?_single (hText : point.text = '\'' :: rest)
    (hRead : readSingle ⟨index + 1, line, point.column + 1⟩ .none [] rest = some (text, cursor)) :
    (point.scan index line).token? '\'' rest =
      some (point.behind index line cursor false text false) := by
  have hBegin : (point.scan index line).token? '\'' rest =
      (point.scan index line).keyStart? fun cursor =>
        (readSingle (cursor.mark.along 1) .none [] (cursor.text.drop 1)).map
          fun read => (.scalar read.1 false, read.2) := by
    simp [Scan.token?, Point.scan, hText, atDocumentBound]
  rw [hBegin, Scan.keyStart?, saveKey?_scan]
  simp [Point.scan, hText, Mark.along, hRead, Scan.allowKey, Scan.push, behind]

theorem token?_double (hText : point.text = '"' :: rest)
    (hRead : readDouble ⟨index + 1, line, point.column + 1⟩ .none [] rest = some (text, cursor)) :
    (point.scan index line).token? '"' rest =
      some (point.behind index line cursor false text false) := by
  have hBegin : (point.scan index line).token? '"' rest =
      (point.scan index line).keyStart? fun cursor =>
        (readDouble (cursor.mark.along 1) .none [] (cursor.text.drop 1)).map
          fun read => (.scalar read.1 false, read.2) := by
    simp [Scan.token?, Point.scan, hText, atDocumentBound]
  rw [hBegin, Scan.keyStart?, saveKey?_scan]
  simp [Point.scan, hText, Mark.along, hRead, Scan.allowKey, Scan.push, behind]

/-- A literal block is no key. -/
theorem token?_literal (hText : point.text = '|' :: rest)
    (hRead : readBlock false point.indent ⟨rest, ⟨index + 1, line, point.column + 1⟩⟩ =
      some (text, cursor)) :
    (point.scan index line).token? '|' rest = some { point.scan index line with
      cursor, tokens := .scalar text false :: point.tokens, keyAllowed := true } := by
  have hBegin : (point.scan index line).token? '|' rest =
      (point.scan index line).blockScalar? false := by
    simp [Scan.token?, Point.scan, hText, atDocumentBound, Scan.inFlow]
  rw [hBegin, Scan.blockScalar?]
  simp [Point.scan, hText, Cursor.skip, Mark.along, hRead, Scan.dropKey?, Scan.allowKey, Scan.push]

/-- The first characters of a plain scalar are no signs of structure. -/
theorem token?_plain {c : Char} {broken : Bool} (hText : point.text = c :: rest)
    (hSolid : isSolid (c :: rest) = true) (hIndicator : Render.isIndicator c = false)
    (hSign : c = '-' ∨ c = '?' ∨ c = ':' → atGap rest = false)
    (hBound : atDocumentBound (c :: rest) ⟨index, line, point.column⟩ = false)
    (hRead : readPlain false (point.indent + 1) ⟨index, line, point.column⟩ .none [] (c :: rest) =
      some ⟨text, broken, cursor⟩) :
    (point.scan index line).token? c rest =
      some (point.behind index line cursor broken text true) := by
  obtain ⟨hBlank, hBreak, -, -⟩ := isSolid_cons hSolid
  have hNot : ∀ d ∈ "#,[]\x7b\x7d&*!|>'\"%@\x60".toList, c ≠ d := by
    rintro d hMem rfl
    rw [Render.isIndicator, List.contains_iff_mem.mpr hMem] at hIndicator
    cases hIndicator
  simp at hNot
  have hSigns : (c == '-' && atGap rest) = false ∧ (c == '?' && atGap rest) = false ∧
      (c == ':' && atGap rest) = false := by
    refine ⟨?_, ?_, ?_⟩ <;> rw [Bool.and_eq_false_imp, beq_iff_eq] <;> exact fun hSame =>
      hSign (by simp [hSame])
  have hBegins : Scan.beginsPlain false c rest = true := by
    by_cases hLone : c = '-' ∨ c = '?' ∨ c = ':'
    · have hGap := hSign hLone
      have hBlankAfter : rest.head?.any isBlank = false := by
        cases rest with
        | nil => rfl
        | cons d rest => simpa [atGap] using (Bool.or_eq_false_iff.mp hGap).1
      rcases hLone with rfl | rfl | rfl <;> simp [Scan.beginsPlain, hGap, hBlankAfter]
    · simp only [not_or] at hLone
      simp [Scan.beginsPlain, hBlank, hBreak, hNot, hLone]
  have hBegin : (point.scan index line).token? c rest = (point.scan index line).plain? := by
    have hCursor : (point.scan index line).cursor = ⟨c :: rest, ⟨index, line, point.column⟩⟩ := by
      simp [Point.scan, hText]
    have hFlow : (point.scan index line).inFlow = false := rfl
    rw [Scan.token?]
    simp [hCursor, hFlow, hBound, hNot, hSigns, hBegins]
  rw [hBegin, Scan.plain?, saveKey?_scan]
  simp [Point.scan, hText, Scan.inFlow, hRead, Scan.allowKey, Scan.push, behind]

end Scalar

end Point

end Stencil.Yaml
