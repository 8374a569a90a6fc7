import Stencil.Text.Utf8
import Stencil.Yaml.Scalar

/-!
The tokens of YAML, and reading those that are no scalars: directives, anchors and tags.
-/

namespace Stencil.Yaml

/-- A token. `ν` is what anchors are known by: names in a text, numbers in a node. -/
inductive Token (ν : Type)
  | streamEnd
  | version (major minor : Nat)
  | handle (name : List Char) (expansion : Bytes)
  | documentStart
  | documentEnd
  | blockSequence
  | blockMapping
  | blockEnd
  | openSequence
  | closeSequence
  | openMapping
  | closeMapping
  | item
  | comma
  | key
  | value
  | anchor (name : ν)
  | alias (name : ν)
  | tag (handle : List Char) (suffix : Bytes)
  | scalar (text : List Char) (plain : Bool)
  deriving DecidableEq

abbrev RawToken := Token (List Char)

def asciiBytes (text : List Char) : Bytes := Text.Utf8.encodeChars text

/-- Whether a character may occur in a tag outside angle brackets. -/
def isTagChar (c : Char) : Bool :=
  isWord c || ";/?:@&=+$.!~*'()".toList.contains c

/-- Whether a character may occur in a tag, given whether flow marks may. -/
def isUriChar (bracketed : Bool) (c : Char) : Bool :=
  isTagChar c || (bracketed && (c == ',' || c == '[' || c == ']'))

/-- How many bytes follow the byte that begins an encoded character. -/
def tailCount? (lead : Nat) : Option Nat :=
  if lead < 0x80 then some 0
  else if lead / 32 = 6 then some 1
  else if lead / 16 = 14 then some 2
  else if lead / 8 = 30 then some 3
  else none

/-- Reads the characters of a tag, of which any may be written as the codes of its bytes.
`tails` counts the bytes that the character at hand still lacks. -/
def readUri (bracketed : Bool) (mark : Mark) (tails : Nat) (read : Bytes) :
    List Char → Option (Bytes × Cursor)
  | [] => if tails = 0 then some (read, ⟨[], mark⟩) else none
  | c :: rest =>
      if c == '%' then
        match rest with
        | a :: b :: rest =>
            match Json.hexValue? [a, b] with
            | none => none
            | some byte =>
                let next (tails : Nat) :=
                  readUri bracketed (mark.along 3) tails (read ++ [UInt8.ofNat byte]) rest
                match tails with
                | 0 =>
                    match tailCount? byte with
                    | none => none
                    | some tails => next tails
                | tails + 1 => if byte / 64 = 2 then next tails else none
        | _ => none
      else if tails ≠ 0 then none
      else if isUriChar bracketed c then
        readUri bracketed (mark.along 1) 0 (read ++ asciiBytes [c]) rest
      else some (read, ⟨c :: rest, mark⟩)

/-- Reads the characters of a tag at a place. -/
def Cursor.uri? (cursor : Cursor) (bracketed : Bool) : Option (Bytes × Cursor) :=
  readUri bracketed cursor.mark 0 [] cursor.text

/-- Reads a word, which may be empty. -/
def Cursor.word (cursor : Cursor) : List Char × Cursor :=
  (cursor.text.takeWhile isWord, cursor.skipWhile isWord)

/-- Reads the name of an anchor or of an alias, from behind its sign. -/
def readName (cursor : Cursor) : Option (List Char × Cursor) :=
  let (name, after) := cursor.word
  let ended :=
    atGap after.text || after.text.head?.any fun c => "?:,]\x7d%@\x60".toList.contains c
  if name.isEmpty || !ended then none else some (name, after)

/-- Reads the handle of a tag: an exclamation mark, and a word between two of them. -/
def readHandle (cursor : Cursor) : Option (List Char × Cursor) :=
  match cursor.text with
  | '!' :: _ =>
      let (word, after) := (cursor.skip 1).word
      match after.text with
      | '!' :: _ => some ('!' :: word ++ ['!'], after.skip 1)
      | _ => some ('!' :: word, after)
  | _ => none

/-- Reads a tag: in angle brackets, with a handle that a directive explains, or local. -/
def readTag (cursor : Cursor) : Option (RawToken × Cursor) :=
  match cursor.text with
  | '!' :: '<' :: _ =>
      match (cursor.skip 2).uri? true with
      | some (uri, after) =>
          match uri, after.text with
          | [], _ => none
          | uri, '>' :: _ => some (.tag [] uri, after.skip 1)
          | _, _ => none
      | none => none
  | _ =>
      match readHandle cursor with
      | none => none
      | some (handle, after) =>
          match after.uri? false with
          | none => none
          | some (uri, rest) =>
              if handle.length > 1 && handle.getLast? == some '!' then
                if uri.isEmpty then none else some (.tag handle uri, rest)
              else
                let suffix := asciiBytes (handle.drop 1) ++ uri
                if suffix.isEmpty then some (.tag [] (asciiBytes ['!']), rest)
                else some (.tag ['!'] suffix, rest)

/-- Whether a tag may end where a text begins. -/
def tagMayEnd (inFlow : Bool) (text : List Char) : Bool :=
  atGap text || (inFlow && text.head? == some ',')

/-- Reads a number of a version, of at most nine digits. -/
def readVersionNumber (cursor : Cursor) : Option (Nat × Cursor) :=
  let digits := cursor.text.takeWhile Char.isDigit
  if digits.isEmpty || 9 < digits.length then none
  else
    some (digits.foldl (fun n c => 10 * n + (c.toNat - '0'.toNat)) 0, cursor.skip digits.length)

/-- Reads the version that a directive names. -/
def readVersion (cursor : Cursor) : Option (RawToken × Cursor) :=
  match readVersionNumber (cursor.skipWhile isBlank) with
  | none => none
  | some (major, after) =>
      match after.text with
      | '.' :: _ =>
          (readVersionNumber (after.skip 1)).map fun (minor, after) =>
            (.version major minor, after)
      | _ => none

/-- Reads a handle and what it stands for, as a directive gives them. -/
def readExpansion (cursor : Cursor) : Option (RawToken × Cursor) :=
  match readHandle (cursor.skipWhile isBlank) with
  | none => none
  | some (handle, after) =>
      let closed := handle == ['!'] || (handle.length > 1 && handle.getLast? == some '!')
      if !closed || !(after.text.head?.any isBlank) then none
      else
        match (after.skipWhile isBlank).uri? true with
        | some (uri, after) =>
            if uri.isEmpty || !atGap after.text then none else some (.handle handle uri, after)
        | none => none

/-- Reads a directive, from behind its sign to the end of its line. -/
def readDirective (cursor : Cursor) : Option (RawToken × Cursor) :=
  let (name, after) := cursor.word
  if !atGap after.text then none
  else
    let read :=
      if name == "YAML".toList then readVersion after
      else if name == "TAG".toList then readExpansion after
      else none
    match read with
    | none => none
    | some (token, after) => after.finishLine?.map fun next => (token, next)

end Stencil.Yaml
