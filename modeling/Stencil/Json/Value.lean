import Stencil.Json.Quoted

/-!
JSON values, and reading them: a text is cut into tokens, and the tokens are folded over
the stack of containers that are open.
-/

namespace Stencil.Json

/-- A JSON value. The value of a number is not kept. A text that holds half of a surrogate
pair is `none`. -/
inductive Value
  | null
  | bool (value : Bool)
  | number
  | text (content : Option String)
  | array (items : List Value)
  | object (fields : List (Option String × Value))

/-- A token. -/
inductive Token
  | scalar (value : Value)
  | openArray
  | closeArray
  | openObject
  | closeObject
  | comma
  | colon

namespace Token

/-- Drops a run of decimal digits that must not be empty. -/
def dropDigits? (text : List Char) : Option (List Char) :=
  match text with
  | c :: rest => if c.isDigit then some (rest.dropWhile Char.isDigit) else none
  | [] => none

/-- Drops the whole part of a number: a zero, or digits that begin with another. -/
def dropWhole? (text : List Char) : Option (List Char) :=
  match text with
  | '0' :: rest => some rest
  | _ => dropDigits? text

/-- Drops a fraction, if there is one. -/
def dropFraction? (text : List Char) : Option (List Char) :=
  match text with
  | '.' :: rest => dropDigits? rest
  | _ => some text

/-- Drops an exponent, if there is one. -/
def dropExponent? (text : List Char) : Option (List Char) :=
  match text with
  | 'e' :: rest | 'E' :: rest =>
      match rest with
      | '+' :: rest | '-' :: rest => dropDigits? rest
      | _ => dropDigits? rest
  | _ => some text

/-- What follows the number that a text begins with. -/
def dropNumber? (text : List Char) : Option (List Char) :=
  let unsigned :=
    match text with
    | '-' :: rest => rest
    | _ => text
  ((dropWhole? unsigned).bind dropFraction?).bind dropExponent?

/-- The first token of a text that begins with no blank, and what follows it. -/
def next? (text : List Char) : Option (Token × List Char) :=
  match text with
  | [] => none
  | '[' :: rest => some (openArray, rest)
  | ']' :: rest => some (closeArray, rest)
  | '\x7b' :: rest => some (openObject, rest)
  | '\x7d' :: rest => some (closeObject, rest)
  | ',' :: rest => some (comma, rest)
  | ':' :: rest => some (colon, rest)
  | '"' :: rest =>
      (unquote rest).map fun (read, rest) =>
        (scalar (.text (read.map String.ofList)), rest)
  | 'n' :: 'u' :: 'l' :: 'l' :: rest => some (scalar .null, rest)
  | 't' :: 'r' :: 'u' :: 'e' :: rest => some (scalar (.bool true), rest)
  | 'f' :: 'a' :: 'l' :: 's' :: 'e' :: rest => some (scalar (.bool false), rest)
  | _ => (dropNumber? text).map fun rest => (scalar .number, rest)

/-- Whether a character may stand between tokens. -/
def isBlank (c : Char) : Bool := c = ' ' || c = '\n' || c = '\t' || c = '\r'

def scan (text : List Char) : Option (List Token) :=
  match text with
  | [] => some []
  | c :: rest =>
      if isBlank c then scan rest
      else
        match next? (c :: rest) with
        | none => none
        | some (token, after) =>
            if _shorter : after.length < rest.length + 1 then
              (scan after).map (token :: ·)
            else none
termination_by text.length

end Token

/-- A container that is open, with what it holds so far. In an object, a value may have
its key already. -/
inductive Frame
  | array (items : List Value)
  | object (fields : List (Option String × Value))
  | field (fields : List (Option String × Value)) (key : Option String)

/-- What may come next. `complete` holds a value that no container has taken yet. -/
inductive Expected
  | value
  | valueOrEnd
  | key
  | keyOrEnd
  | colon (key : Option String)
  | complete (value : Value)

/-- Reads one token, given the open containers, innermost first. -/
def step (state : List Frame × Expected) (token : Token) : Option (List Frame × Expected) :=
  match state, token with
  | (frames, .value), .scalar value
  | (frames, .valueOrEnd), .scalar value => some (frames, .complete value)
  | (frames, .value), .openArray
  | (frames, .valueOrEnd), .openArray => some (.array [] :: frames, .valueOrEnd)
  | (frames, .value), .openObject
  | (frames, .valueOrEnd), .openObject => some (.object [] :: frames, .keyOrEnd)
  | (.array _ :: frames, .valueOrEnd), .closeArray => some (frames, .complete (.array []))
  | (.object _ :: frames, .keyOrEnd), .closeObject => some (frames, .complete (.object []))
  | (frames, .key), .scalar (.text key)
  | (frames, .keyOrEnd), .scalar (.text key) => some (frames, .colon key)
  | (.object fields :: frames, .colon key), .colon => some (.field fields key :: frames, .value)
  | (.array items :: frames, .complete value), .comma =>
      some (.array (items ++ [value]) :: frames, .value)
  | (.array items :: frames, .complete value), .closeArray =>
      some (frames, .complete (.array (items ++ [value])))
  | (.field fields key :: frames, .complete value), .comma =>
      some (.object (fields ++ [(key, value)]) :: frames, .key)
  | (.field fields key :: frames, .complete value), .closeObject =>
      some (frames, .complete (.object (fields ++ [(key, value)])))
  | _, _ => none

def Value.ofTokens? (tokens : List Token) : Option Value :=
  match tokens.foldlM step ([], .value) with
  | some ([], .complete value) => some value
  | _ => none

def Value.parse (text : String) : Option Value :=
  (Token.scan text.toList).bind Value.ofTokens?

end Stencil.Json
