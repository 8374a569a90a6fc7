import Stencil.Yaml.Token

/-!
Cutting a text into tokens. Indentation shows where block collections begin and end, so
that the scan inserts tokens for them. A key without a sign of its own is known as a key
only by the colon after it; its place in the tokens is remembered until then.
-/

namespace Stencil.Yaml

/-- A place where a key may have begun. It is `needed` where nothing but a key can stand. -/
structure PossibleKey where
  place : Nat
  mark : Mark
  needed : Bool

/-- A scan under way. `tokens` holds the newest first. There is one possible key for each
flow collection that is open and one for the block around them, innermost first. -/
structure Scan where
  cursor : Cursor
  tokens : List RawToken
  indent : Int
  outer : List Int
  keyAllowed : Bool
  key : Option PossibleKey
  outerKeys : List (Option PossibleKey)

namespace Scan

def start (text : List Char) : Scan := ⟨.start text, [], -1, [], true, none, []⟩

def inFlow (scan : Scan) : Bool := !scan.outerKeys.isEmpty

def column (scan : Scan) : Int := scan.cursor.mark.column

def push (scan : Scan) (token : RawToken) : Scan :=
  { scan with tokens := token :: scan.tokens }

/-- Puts a token in front of the one that stands at a place. -/
def insertAt (scan : Scan) (place : Nat) (token : RawToken) : Scan :=
  let newer := scan.tokens.length - place
  { scan with tokens := scan.tokens.take newer ++ token :: scan.tokens.drop newer }

def take (scan : Scan) (count : Nat) (token : RawToken) : Scan :=
  { scan with cursor := scan.cursor.skip count }.push token

/-- Whether a possible key lies too far back: on another line, or over 1024 characters. -/
def isStale (mark : Mark) (key : PossibleKey) : Bool :=
  key.mark.line < mark.line || key.mark.index + 1024 < mark.index

/-- Drops a key that lies too far back, unless it is needed. -/
def refresh? (mark : Mark) : Option PossibleKey → Option (Option PossibleKey)
  | some key =>
      if isStale mark key then if key.needed then none else some none else some (some key)
  | none => some none

/-- Drops the keys that lie too far back. -/
def dropStale? (scan : Scan) : Option Scan :=
  match refresh? scan.cursor.mark scan.key,
    scan.outerKeys.mapM (refresh? scan.cursor.mark) with
  | some key, some outerKeys => some { scan with key, outerKeys }
  | _, _ => none

/-- Gives up the innermost possible key. -/
def dropKey? (scan : Scan) : Option Scan :=
  match scan.key with
  | some key => if key.needed then none else some { scan with key := none }
  | none => some scan

/-- Remembers that a key may begin here. -/
def saveKey? (scan : Scan) : Option Scan :=
  if scan.keyAllowed then
    scan.dropKey?.map fun dropped =>
      { dropped with
        key := some ⟨scan.tokens.length, scan.cursor.mark,
          !scan.inFlow && decide (scan.indent = scan.column)⟩ }
  else some scan

/-- Sets whether a key may begin next. -/
def allowKey (scan : Scan) (allowed : Bool) : Scan := { scan with keyAllowed := allowed }

/-- Ends the block collections that begin right of `column`. -/
def closeBlocks (column : Int) (indent : Int) (tokens : List RawToken) :
    List Int → Int × List RawToken × List Int
  | [] => (indent, tokens, [])
  | next :: outer =>
      if column < indent then closeBlocks column next (.blockEnd :: tokens) outer
      else (indent, tokens, next :: outer)

/-- Ends the block collections that begin right of `column`. -/
def unroll (scan : Scan) (column : Int) : Scan :=
  if scan.inFlow then scan
  else
    let (indent, tokens, outer) := closeBlocks column scan.indent scan.tokens scan.outer
    { scan with indent, tokens, outer }

/-- Begins a block collection at `column`, if that is right of the one around it. Its token
stands at `place`. -/
def roll (scan : Scan) (column : Int) (place : Nat) (token : RawToken) : Scan :=
  if !scan.inFlow && decide (scan.indent < column) then
    { scan with indent := column, outer := scan.indent :: scan.outer }.insertAt place token
  else scan

/-- Passes over blanks, comments and line ends. In block collections a tab is no blank where
a key may begin, and a key may begin on each new line. -/
def toNext (inFlow : Bool) (cursor : Cursor) (keyAllowed : Bool) : Cursor × Bool :=
  let started :=
    if cursor.mark.column == 0 && cursor.text.head? == some '\uFEFF' then cursor.skip 1
    else cursor
  let ended :=
    (started.skipWhile fun c => c == ' ' || ((inFlow || !keyAllowed) && c == '\t')).skipComment
  match ended.lineEnd? with
  | none => (ended, keyAllowed)
  | some (_, next) =>
      if _shorter : next.text.length < cursor.text.length then
        toNext inFlow next (keyAllowed || !inFlow)
      else (ended, keyAllowed)
termination_by cursor.text.length

def openFlow? (scan : Scan) (token : RawToken) : Option Scan :=
  scan.saveKey?.map fun scan =>
    ({ scan with key := none, outerKeys := scan.key :: scan.outerKeys }.allowKey true).take 1
      token

def closeFlow? (scan : Scan) (token : RawToken) : Option Scan :=
  scan.dropKey?.map fun scan =>
    let scan :=
      match scan.outerKeys with
      | key :: outerKeys => { scan with key, outerKeys }
      | [] => scan
    (scan.allowKey false).take 1 token

/-- Ends all block collections, as the bounds of documents do. -/
def endBlocks? (scan : Scan) : Option Scan :=
  (scan.unroll (-1)).dropKey?.map (·.allowKey false)

def blockItem? (scan : Scan) : Option Scan :=
  let rolled :=
    if scan.inFlow then some scan
    else if scan.keyAllowed then
      some (scan.roll scan.column scan.tokens.length .blockSequence)
    else none
  (rolled.bind dropKey?).map fun scan => (scan.allowKey true).take 1 .item

/-- A key with a sign of its own. -/
def explicitKey? (scan : Scan) : Option Scan :=
  let rolled :=
    if scan.inFlow then some scan
    else if scan.keyAllowed then
      some (scan.roll scan.column scan.tokens.length .blockMapping)
    else none
  (rolled.bind dropKey?).map fun scan => (scan.allowKey !scan.inFlow).take 1 .key

/-- A colon, which makes a key of the place remembered. -/
def value? (scan : Scan) : Option Scan :=
  match scan.key with
  | some key =>
      let scan := (scan.insertAt key.place .key).roll key.mark.column key.place .blockMapping
      some (({ scan with key := none }.allowKey false).take 1 .value)
  | none =>
      let rolled :=
        if scan.inFlow then some scan
        else if scan.keyAllowed then
          some (scan.roll scan.column scan.tokens.length .blockMapping)
        else none
      rolled.map fun scan => (scan.allowKey !scan.inFlow).take 1 .value

/-- A token that may begin a key, as `read` reads it. -/
def keyStart? (scan : Scan) (read : Cursor → Option (RawToken × Cursor)) : Option Scan :=
  scan.saveKey?.bind fun scan =>
    (read scan.cursor).map fun (token, cursor) =>
      ({ scan with cursor }.allowKey false).push token

def blockScalar? (scan : Scan) (folded : Bool) : Option Scan :=
  scan.dropKey?.bind fun scan =>
    (readBlock folded scan.indent (scan.cursor.skip 1)).map fun (text, cursor) =>
      ({ scan with cursor }.allowKey true).push (.scalar text false)

def plain? (scan : Scan) : Option Scan :=
  scan.saveKey?.bind fun scan =>
    (readPlain scan.inFlow (scan.indent + 1) scan.cursor.mark .none [] scan.cursor.text).map
      fun plain =>
        ({ scan with cursor := plain.after }.allowKey plain.broken).push
          (.scalar plain.text true)

/-- Whether a plain scalar may begin with these characters. -/
def beginsPlain (inFlow : Bool) (c : Char) (rest : List Char) : Bool :=
  !(isBlank c || isBreak c || "-?:,[]\x7b\x7d#&*!|>'\"%@\x60".toList.contains c) ||
    (c == '-' && !rest.head?.any isBlank) ||
    (!inFlow && (c == '?' || c == ':') && !atGap rest)

/-- A tag, and a check of what follows it. -/
def tag? (scan : Scan) : Option Scan :=
  scan.keyStart? fun cursor =>
    (readTag cursor).filter fun (_, after) => tagMayEnd scan.inFlow after.text

/-- The next token, at a place where one begins. -/
def token? (scan : Scan) (c : Char) (rest : List Char) : Option Scan :=
  let cursor := scan.cursor
  if cursor.mark.column == 0 && c == '%' then
    scan.endBlocks?.bind fun scan =>
      (readDirective (cursor.skip 1)).map fun (token, cursor) =>
        { scan with cursor }.push token
  else if atDocumentBound cursor.text cursor.mark then
    scan.endBlocks?.map (·.take 3 (if c == '-' then .documentStart else .documentEnd))
  else if c == '[' then scan.openFlow? .openSequence
  else if c == '\x7b' then scan.openFlow? .openMapping
  else if c == ']' then scan.closeFlow? .closeSequence
  else if c == '\x7d' then scan.closeFlow? .closeMapping
  else if c == ',' then scan.dropKey?.map fun scan => (scan.allowKey true).take 1 .comma
  else if c == '-' && atGap rest then scan.blockItem?
  else if c == '?' && (scan.inFlow || atGap rest) then scan.explicitKey?
  else if c == ':' && (scan.inFlow || atGap rest) then scan.value?
  else if c == '*' then
    scan.keyStart? fun cursor =>
      (readName (cursor.skip 1)).map fun (name, after) => (.alias name, after)
  else if c == '&' then
    scan.keyStart? fun cursor =>
      (readName (cursor.skip 1)).map fun (name, after) => (.anchor name, after)
  else if c == '!' then scan.tag?
  else if c == '|' && !scan.inFlow then scan.blockScalar? false
  else if c == '>' && !scan.inFlow then scan.blockScalar? true
  else if c == '\'' then
    scan.keyStart? fun cursor =>
      (readSingle (cursor.mark.along 1) .none [] (cursor.text.drop 1)).map
        fun (text, after) => (.scalar text false, after)
  else if c == '"' then
    scan.keyStart? fun cursor =>
      (readDouble (cursor.mark.along 1) .none [] (cursor.text.drop 1)).map
        fun (text, after) => (.scalar text false, after)
  else if beginsPlain scan.inFlow c rest then scan.plain?
  else none

/-- The tokens of the rest of a text, newest first. -/
def run (scan : Scan) : Option (List RawToken) :=
  let (cursor, keyAllowed) := toNext scan.inFlow scan.cursor scan.keyAllowed
  match { scan with cursor, keyAllowed }.dropStale? with
  | none => none
  | some fresh =>
      let next := fresh.unroll fresh.column
      match next.cursor.text with
      | [] => next.endBlocks?.map fun scan => .streamEnd :: scan.tokens
      | c :: rest =>
          match next.token? c rest with
          | none => none
          | some after =>
              if _shorter : after.cursor.text.length < scan.cursor.text.length then run after
              else none
termination_by scan.cursor.text.length

end Scan

def scan? (text : List Char) : Option (List RawToken) :=
  if text.all isAllowed then ((Scan.start text).run).map List.reverse else none

end Stencil.Yaml
