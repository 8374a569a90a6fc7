import Stencil.Command.Opt

/-!
Taking options off a command line. An option that takes a value and was given none with it
waits for the next word; what was given for it is looked at only when the next option, or
the end, is reached.
-/

namespace Stencil.Command

/-- What a word of the command line is. -/
inductive Word
  | divider
  | long (name : String) (value : Option String)
  | short (letters : List Char)
  | plain (text : String)
  deriving DecidableEq, Repr

/-- A word that begins with a dash is one of options, but for a dash alone. -/
def Word.ofText (text : String) : Word :=
  match text.toList with
  | ['-', '-'] => divider
  | '-' :: '-' :: name =>
      match Occurrence.cutAt? '=' name with
      | some (name, value) => long (String.ofList name) (some (String.ofList value))
      | none => long (String.ofList name) none
  | '-' :: letter :: letters => short (letter :: letters)
  | _ => plain text

/-- The options read so far, and the one whose value is still to be looked at. -/
structure Reading where
  given : List (Opt × Option String) := []
  pending : Option (Opt × Option String) := none
  deriving DecidableEq, Repr

namespace Reading

def has (reading : Reading) (opt : Opt) : Bool :=
  reading.given.any fun entry => entry.1 = opt

/-- The values of an option, in their order. -/
def valuesOf (reading : Reading) (opt : Opt) : List String :=
  reading.given.filterMap fun entry => if entry.1 = opt then entry.2 else none

def valueOf? (reading : Reading) (opt : Opt) : Option String := (reading.valuesOf opt).head?

/-- Takes an option with its value. -/
def accept (reading : Reading) (opt : Opt) (value : Option String) : Except Refusal Reading :=
  if !opt.repeats && reading.has opt then .error .conflict
  else if opt.isPath && value = some "" then .error .invalidValue
  else .ok { reading with given := reading.given ++ [(opt, value)] }

/-- Looks at the option whose value was left open. -/
def settle (reading : Reading) : Except Refusal Reading :=
  match reading.pending with
  | none => .ok reading
  | some (_, none) => .error .invalidValue
  | some (opt, some value) => { reading with pending := none }.accept opt (some value)

/-- Takes an option without a value. -/
def switch (reading : Reading) (opt : Opt) : Except Refusal Reading :=
  match reading.settle with
  | .error refusal => .error refusal
  | .ok reading =>
      match opt with
      | .help => .error .help
      | .version => .error .version
      | _ => reading.accept opt none

/-- Takes an option with the value given with it, or leaves its value open. -/
def value (reading : Reading) (opt : Opt) (attached : Option String) :
    Except Refusal Reading :=
  match reading.settle with
  | .error refusal => .error refusal
  | .ok reading =>
      match attached with
      | some value => reading.accept opt (some value)
      | none => .ok { reading with pending := some (opt, none) }

def long (reading : Reading) (options : List Opt) (name : String) (attached : Option String) :
    Except Refusal Reading :=
  match options.find? fun opt => opt.long = name with
  | none => .error .unknownArgument
  | some opt =>
      if opt.takesValue then reading.value opt attached
      else if attached.isSome then .error .tooManyValues
      else reading.switch opt

/-- The value that follows the letter of an option in one word. -/
def attachedTo : List Char → Option String
  | [] => none
  | '=' :: rest => some (String.ofList rest)
  | rest => some (String.ofList rest)

/-- Takes a word of letters, each an option. What follows an option that takes a value is
its value. -/
def short (reading : Reading) (options : List Opt) : List Char → Except Refusal Reading
  | [] => .ok reading
  | letter :: rest =>
      match options.find? fun opt => opt.short? = some letter with
      | none => .error .unknownArgument
      | some opt =>
          if opt.takesValue then reading.value opt (attachedTo rest)
          else
            match reading.switch opt with
            | .error refusal => .error refusal
            | .ok reading => reading.short options rest

/-- Takes a word that is no option: the value of the option that waits for one. -/
def plain (reading : Reading) (text : String) : Except Refusal Reading :=
  match reading.pending with
  | some (opt, none) => .ok { reading with pending := some (opt, some text) }
  | _ => .error .unknownArgument

def word (reading : Reading) (options : List Opt) : Word → Except Refusal Reading
  | .divider => .ok reading
  | .long name attached => reading.long options name attached
  | .short letters => reading.short options letters
  | .plain text => reading.plain text

/-- Takes all words. After a divider there is nothing that a word could be. -/
def words (reading : Reading) (options : List Opt) : List String → Except Refusal Reading
  | [] => reading.settle
  | text :: rest =>
      match Word.ofText text with
      | .divider => if rest.isEmpty then reading.settle else .error .unknownArgument
      | word =>
          match reading.word options word with
          | .error refusal => .error refusal
          | .ok reading => reading.words options rest

end Reading

end Stencil.Command
