import Stencil.Table
import Stencil.Yaml.Scan

/-!
YAML nodes, and the node that the tokens of a text spell. A text holds one document. An
alias stands for the node with its anchor; anchors are numbered by how many names were
known before, so that a name given again may share a number, and then the last node with
the number counts.
-/

namespace Stencil.Yaml

/-- A token of which anchors are numbered. -/
abbrev NumberedToken := Token Nat

/-- The token with an anchor's name replaced by a number. -/
def Token.withNumber {ν : Type} (number : Nat) : Token ν → NumberedToken
  | .anchor _ => .anchor number
  | .alias _ => .alias number
  | .streamEnd => .streamEnd
  | .version major minor => .version major minor
  | .handle name expansion => .handle name expansion
  | .documentStart => .documentStart
  | .documentEnd => .documentEnd
  | .blockSequence => .blockSequence
  | .blockMapping => .blockMapping
  | .blockEnd => .blockEnd
  | .openSequence => .openSequence
  | .closeSequence => .closeSequence
  | .openMapping => .openMapping
  | .closeMapping => .closeMapping
  | .item => .item
  | .comma => .comma
  | .key => .key
  | .value => .value
  | .tag name rest => .tag name rest
  | .scalar text isPlain => .scalar text isPlain

/-- Numbers the anchors, and finds what each alias refers to. -/
def numberAnchors (known : Table (List Char) Nat) :
    List RawToken → Option (List NumberedToken)
  | [] => some []
  | .anchor name :: tokens =>
      let number := known.entries.length
      (numberAnchors (known.insert name number) tokens).map (.anchor number :: ·)
  | .alias name :: tokens =>
      (known.get? name).bind fun number =>
        (numberAnchors known tokens).map (.alias number :: ·)
  | token :: tokens => (numberAnchors known tokens).map (token.withNumber 0 :: ·)

/-- A node. Tags are kept where they can change what a node means. -/
inductive Node
  | alias (number : Nat)
  | scalar (anchor : Option Nat) (tag : Option Bytes) (text : String) (plain : Bool)
  | sequence (anchor : Option Nat) (items : List Node)
  | mapping (anchor : Option Nat) (entries : List (Node × Node))

namespace Node

/-- The node of a place where nothing stands. -/
def empty : Node := .scalar none none "" true

/-- What tag handles stand for. -/
abbrev Handles := List (List Char × Bytes)

/-- The handles that need no directive. -/
def standardHandles : Handles :=
  [(['!'], asciiBytes ['!']), (['!', '!'], asciiBytes "tag:yaml.org,2002:".toList)]

/-- What may precede the content of a node. -/
structure Properties where
  anchor : Option Nat
  tag : Option Bytes

/-- The tag that a handle and a suffix spell. -/
def spellTag (handles : Handles) (handle : List Char) (suffix : Bytes) : Option Bytes :=
  if handle.isEmpty then some suffix else (handles.lookup handle).map (· ++ suffix)

/-- Reads an anchor and a tag, in either order. -/
def readProperties (handles : Handles) (tokens : List NumberedToken) :
    Option (Properties × List NumberedToken) :=
  match tokens with
  | .anchor number :: .tag handle suffix :: rest
  | .tag handle suffix :: .anchor number :: rest =>
      (spellTag handles handle suffix).map fun tag => (⟨some number, some tag⟩, rest)
  | .anchor number :: rest => some (⟨some number, none⟩, rest)
  | .tag handle suffix :: rest =>
      (spellTag handles handle suffix).map fun tag => (⟨none, some tag⟩, rest)
  | _ => some (⟨none, none⟩, tokens)

/-- A node without content, which needs a property. -/
def withoutContent (properties : Properties) (rest : List NumberedToken) :
    Option (Node × List NumberedToken) :=
  if properties.anchor.isSome || properties.tag.isSome then
    some (.scalar properties.anchor properties.tag "" true, rest)
  else none

/-- A scalar with its properties. The tag of a lone exclamation mark counts for nothing. -/
def ofScalar (properties : Properties) (text : List Char) (plain : Bool) : Node :=
  let tag := if properties.tag = some (asciiBytes ['!']) then none else properties.tag
  .scalar properties.anchor tag (String.ofList text) plain

/-- Whether no node stands between a key or a value in a block and what follows. -/
def endsBlockEntry : List NumberedToken → Bool
  | .key :: _ | .value :: _ | .blockEnd :: _ => true
  | _ => false

mutual

/-- Reads a node. `block` tells whether it may be a block collection, and `bare` whether it
may be a block sequence that is not indented. `fuel` bounds the calls. -/
def read (handles : Handles) (fuel : Nat) (block bare : Bool) (tokens : List NumberedToken) :
    Option (Node × List NumberedToken) :=
  match fuel, tokens with
  | 0, _ => none
  | _ + 1, .alias number :: rest => some (.alias number, rest)
  | fuel + 1, tokens =>
      match readProperties handles tokens with
      | none => none
      | some (properties, rest) =>
          match rest with
          | .item :: _ =>
              if bare then
                (readBareItems handles fuel rest).map fun (items, rest) =>
                  (.sequence properties.anchor items, rest)
              else withoutContent properties rest
          | .scalar text plain :: rest => some (ofScalar properties text plain, rest)
          | .openSequence :: rest =>
              (readFlowItems handles fuel true rest).map fun (items, rest) =>
                (.sequence properties.anchor items, rest)
          | .openMapping :: rest =>
              (readFlowEntries handles fuel true rest).map fun (entries, rest) =>
                (.mapping properties.anchor entries, rest)
          | .blockSequence :: inner =>
              if block then
                (readBlockItems handles fuel inner).map fun (items, rest) =>
                  (.sequence properties.anchor items, rest)
              else withoutContent properties rest
          | .blockMapping :: inner =>
              if block then
                (readBlockEntries handles fuel inner).map fun (entries, rest) =>
                  (.mapping properties.anchor entries, rest)
              else withoutContent properties rest
          | _ => withoutContent properties rest

def readBlockItems (handles : Handles) (fuel : Nat) (tokens : List NumberedToken) :
    Option (List Node × List NumberedToken) :=
  match fuel, tokens with
  | fuel + 1, .item :: rest =>
      let item :=
        match rest with
        | .item :: _ | .blockEnd :: _ => some (empty, rest)
        | _ => read handles fuel true false rest
      match item with
      | none => none
      | some (item, rest) =>
          (readBlockItems handles fuel rest).map fun (items, rest) => (item :: items, rest)
  | _, .blockEnd :: rest => some ([], rest)
  | _, _ => none

/-- Reads the items of a block sequence that is not indented. -/
def readBareItems (handles : Handles) (fuel : Nat) (tokens : List NumberedToken) :
    Option (List Node × List NumberedToken) :=
  match fuel, tokens with
  | 0, _ => none
  | fuel + 1, .item :: rest =>
      let item :=
        match rest with
        | .item :: _ => some (empty, rest)
        | _ =>
            if endsBlockEntry rest then some (empty, rest)
            else read handles fuel true false rest
      match item with
      | none => none
      | some (item, rest) =>
          (readBareItems handles fuel rest).map fun (items, rest) => (item :: items, rest)
  | _ + 1, tokens => some ([], tokens)

def readBlockEntries (handles : Handles) (fuel : Nat) (tokens : List NumberedToken) :
    Option (List (Node × Node) × List NumberedToken) :=
  match fuel, tokens with
  | fuel + 1, .key :: rest =>
      let key :=
        if endsBlockEntry rest then some (empty, rest) else read handles fuel true true rest
      match key with
      | none => none
      | some (key, rest) =>
          let value :=
            match rest with
            | .value :: rest =>
                if endsBlockEntry rest then some (empty, rest)
                else read handles fuel true true rest
            | _ => some (empty, rest)
          match value with
          | none => none
          | some (value, rest) =>
              (readBlockEntries handles fuel rest).map fun (entries, rest) =>
                ((key, value) :: entries, rest)
  | _, .blockEnd :: rest => some ([], rest)
  | _, _ => none

/-- Reads the items of a flow sequence. A key among them begins a mapping of one entry; if
no node follows the key, the token after it is passed over. -/
def readFlowItems (handles : Handles) (fuel : Nat) (first : Bool)
    (tokens : List NumberedToken) : Option (List Node × List NumberedToken) :=
  match fuel, first, tokens with
  | 0, _, _ => none
  | _ + 1, _, .closeSequence :: rest => some ([], rest)
  | _ + 1, false, .comma :: .closeSequence :: rest => some ([], rest)
  | fuel + 1, true, .key :: rest
  | fuel + 1, false, .comma :: .key :: rest =>
      let key :=
        match rest with
        | .value :: rest | .comma :: rest | .closeSequence :: rest => some (empty, rest)
        | _ => read handles fuel false false rest
      match key with
      | none => none
      | some (key, rest) =>
          let value :=
            match rest with
            | .value :: rest =>
                match rest with
                | .comma :: _ | .closeSequence :: _ => some (empty, rest)
                | _ => read handles fuel false false rest
            | _ => some (empty, rest)
          match value with
          | none => none
          | some (value, rest) =>
              (readFlowItems handles fuel false rest).map fun (items, rest) =>
                (.mapping none [(key, value)] :: items, rest)
  | fuel + 1, true, rest
  | fuel + 1, false, .comma :: rest =>
      match read handles fuel false false rest with
      | none => none
      | some (item, rest) =>
          (readFlowItems handles fuel false rest).map fun (items, rest) =>
            (item :: items, rest)
  | _ + 1, false, _ => none

def readFlowEntries (handles : Handles) (fuel : Nat) (first : Bool)
    (tokens : List NumberedToken) : Option (List (Node × Node) × List NumberedToken) :=
  match fuel, first, tokens with
  | 0, _, _ => none
  | _ + 1, _, .closeMapping :: rest => some ([], rest)
  | _ + 1, false, .comma :: .closeMapping :: rest => some ([], rest)
  | fuel + 1, true, .key :: rest
  | fuel + 1, false, .comma :: .key :: rest =>
      let key :=
        match rest with
        | .value :: _ | .comma :: _ | .closeMapping :: _ => some (empty, rest)
        | _ => read handles fuel false false rest
      match key with
      | none => none
      | some (key, rest) =>
          let value :=
            match rest with
            | .value :: rest =>
                match rest with
                | .comma :: _ | .closeMapping :: _ => some (empty, rest)
                | _ => read handles fuel false false rest
            | _ => some (empty, rest)
          match value with
          | none => none
          | some (value, rest) =>
              (readFlowEntries handles fuel false rest).map fun (entries, rest) =>
                ((key, value) :: entries, rest)
  | fuel + 1, true, rest
  | fuel + 1, false, .comma :: rest =>
      match read handles fuel false false rest with
      | none => none
      | some (key, rest) =>
          (readFlowEntries handles fuel false rest).map fun (entries, rest) =>
            ((key, empty) :: entries, rest)
  | _ + 1, false, _ => none

end

mutual

/-- The nodes with anchors in a node, in the order in which they begin. -/
def anchored : Node → List (Nat × Node)
  | .alias _ => []
  | .scalar anchor tag text plain =>
      (anchor.map fun number => (number, .scalar anchor tag text plain)).toList
  | .sequence anchor items =>
      (anchor.map fun number => (number, .sequence anchor items)).toList ++
        anchoredItems items
  | .mapping anchor entries =>
      (anchor.map fun number => (number, .mapping anchor entries)).toList ++
        anchoredEntries entries

/-- The nodes with anchors in the items of a sequence. -/
def anchoredItems : List Node → List (Nat × Node)
  | [] => []
  | item :: items => anchored item ++ anchoredItems items

/-- The nodes with anchors in the entries of a mapping. -/
def anchoredEntries : List (Node × Node) → List (Nat × Node)
  | [] => []
  | (key, value) :: entries => anchored key ++ anchored value ++ anchoredEntries entries

end

end Node

/-- A document: its node, if it is not void, and the nodes that aliases refer to, the last
one first. -/
structure Document where
  root : Option Node
  anchors : List (Nat × Node)

namespace Document

def ofRoot (root : Node) : Document := ⟨some root, root.anchored.reverse⟩

/-- The node itself that a node stands for. -/
def resolve (document : Document) : Node → Option Node
  | .alias number => document.anchors.lookup number
  | node => some node

/-- Reads the directives in front of a document: a version at most once, and handles, each
at most once. -/
def readDirectives (versioned : Bool) (handles : Node.Handles) :
    List NumberedToken → Option (Node.Handles × List NumberedToken)
  | .version major minor :: rest =>
      if versioned || major != 1 || !(minor == 1 || minor == 2) then none
      else readDirectives true handles rest
  | .handle name expansion :: rest =>
      if (handles.lookup name).isSome then none
      else readDirectives versioned ((name, expansion) :: handles) rest
  | tokens => some (handles, tokens)

/-- Whether a document that was begun by its sign has no content. -/
def isBlankContent : List NumberedToken → Bool
  | .version _ _ :: _ | .handle _ _ :: _ | .documentStart :: _ | .documentEnd :: _
  | .streamEnd :: _ => true
  | _ => false

/-- Whether nothing but signs of the document's end is left. -/
def isFinished (tokens : List NumberedToken) : Bool :=
  tokens.dropWhile (· = .documentEnd) = [.streamEnd]

def ofTokens? (tokens : List NumberedToken) : Option Document :=
  let fuel := 2 * tokens.length + 2
  match tokens with
  | [.streamEnd] => some ⟨none, []⟩
  | _ =>
      match readDirectives false [] tokens with
      | none => none
      | some (handles, rest) =>
          let handles := handles ++ Node.standardHandles
          let root :=
            match rest with
            | .documentStart :: rest =>
                if isBlankContent rest then some (Node.empty, rest)
                else Node.read handles fuel true false rest
            | _ =>
                if rest.length = tokens.length then Node.read handles fuel true false rest
                else none
          match root with
          | none => none
          | some (root, rest) => if isFinished rest then some (ofRoot root) else none

def parse (text : String) : Option Document :=
  ((scan? text.toList).bind (numberAnchors .empty)).bind ofTokens?

end Document

end Stencil.Yaml
