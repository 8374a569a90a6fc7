import Stencil.Diff.Snake

/-!
Edit scripts: blocks that two lists share, blocks of the first list that go, and blocks of
the second that come. A script says what both lists are.
-/

namespace Stencil.Diff

variable {α : Type} [DecidableEq α]

/-- A block of an edit script. -/
inductive Edit (α : Type)
  | keep (items : List α)
  | delete (items : List α)
  | insert (items : List α)

def Edit.items : Edit α → List α
  | keep items | delete items | insert items => items

/-- An edit script, from the start of the lists to their ends. -/
abbrev Script (α : Type) := List (Edit α)

namespace Script

def old (script : Script α) : List α :=
  script.flatMap fun edit =>
    match edit with
    | .keep items | .delete items => items
    | .insert _ => []

def new (script : Script α) : List α :=
  script.flatMap fun edit =>
    match edit with
    | .keep items | .insert items => items
    | .delete _ => []

/-- A block of shared items, if there are any. -/
def keeping (items : List α) : Script α := if items.isEmpty then [] else [.keep items]

/-- A script between two lists. What they share at both ends is kept. The rest is divided
where a shortest path from one to the other passes its middle. -/
def between (old new : List α) : Script α :=
  let front := commonPrefixLength old new
  let old' := old.drop front
  let new' := new.drop front
  let back := commonSuffixLength old' new'
  let a := old'.take (old'.length - back)
  let b := new'.take (new'.length - back)
  let inner : Script α :=
    if a.isEmpty && b.isEmpty then []
    else if b.isEmpty then [.delete a]
    else if a.isEmpty then [.insert b]
    else
      match middle a.toArray b.toArray with
      | none => [.delete a, .insert b]
      | some (x, y) =>
          if _smaller : (a.take x).length + (b.take y).length < old.length + new.length ∧
              (a.drop x).length + (b.drop y).length < old.length + new.length then
            between (a.take x) (b.take y) ++ between (a.drop x) (b.drop y)
          else [.delete a, .insert b]
  keeping (old.take front) ++ inner ++ keeping (old'.drop (old'.length - back))
termination_by old.length + new.length
decreasing_by
  · exact _smaller.1
  · exact _smaller.2

end Script

end Stencil.Diff
