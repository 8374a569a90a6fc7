import Stencil.Occurrence

/-!
Paths as written: names separated by `/`. Empty names and `.` stand for nothing, except a
leading `.`; a path is never brought to some normal form, so it is shown as it was given.
-/

namespace Stencil

/-- A path as written, with a slash between its parts. Like the names in it, it is a Unicode
text. -/
structure Path where
  text : String
  deriving DecidableEq, Repr

namespace Path

/-- What a path begins with before its first name: the root, a leading `.`, or nothing. -/
def head (path : Path) : List Char :=
  match path.text.toList with
  | '/' :: _ => ['/']
  | ['.'] => ['.']
  | '.' :: '/' :: _ => ['.']
  | _ => []

/-- The parts between the slashes after the head. -/
def parts (path : Path) : List (List Char) :=
  Occurrence.fields '/' (path.text.toList.drop path.head.length)

/-- Whether a part stands for nothing. -/
def isIdle (part : List Char) : Bool := part.isEmpty || part = ['.']

/-- The parts with idle ones at the end dropped, last part first. -/
def partsBackward (path : Path) : List (List Char) :=
  path.parts.reverse.dropWhile isIdle

/-- The name that the path ends with. A path that ends with `..` has none. -/
def fileName? (path : Path) : Option String :=
  match path.partsBackward with
  | [] => none
  | part :: _ => if part = ['.', '.'] then none else some (String.ofList part)

/-- The path with its last part and the idle ones in front of that dropped. -/
def parent (path : Path) : Path :=
  let kept := (path.partsBackward.drop 1).dropWhile isIdle
  ⟨String.ofList (path.head ++ Occurrence.joinFields '/' kept.reverse)⟩

/-- The path of `name` seen from `path`. -/
def join (path : Path) (name : String) : Path :=
  if name.toList.head? = some '/' then ⟨name⟩
  else if path.text.isEmpty || path.text.toList.getLast? = some '/' then
    ⟨path.text ++ name⟩
  else ⟨path.text ++ "/" ++ name⟩

/-- The path of another name in the same folder. -/
def withFileName (path : Path) (name : String) : Path :=
  if path.fileName?.isSome then path.parent.join name else path.join name

/-- What follows the last period of the name. A period in front of the name starts none. -/
def extension? (path : Path) : Option String :=
  match path.fileName? with
  | none => none
  | some name =>
      match Occurrence.beforeLast? '.' name.toList with
      | none | some [] => none
      | some before => some (String.ofList (name.toList.drop (before.length + 1)))

/-- How messages name a file: by its name if it has one. -/
def label (path : Path) : String := path.fileName?.getD path.text

end Path

end Stencil
