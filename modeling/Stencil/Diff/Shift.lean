import Stencil.Diff.Script

/-!
Moving the blocks of an edit script together. A block that goes or comes is moved past its
neighbours, first up and then down, and joined with blocks of its kind. Inserted items may
slide along shared items that repeat them; the two lists of the script stay the same.
-/

namespace Stencil.Diff

variable {α : Type} [DecidableEq α]

/-- A script with one block singled out. The blocks before it are held in reverse. -/
structure Focus (α : Type) where
  before : Script α
  edit : Edit α
  after : Script α

def keepBefore (items : List α) : Script α → Script α
  | .keep more :: rest => .keep (items ++ more) :: rest
  | script => .keep items :: script

/-- Puts shared items at the end of a reversed script. -/
def keepAfter (items : List α) : Script α → Script α
  | .keep more :: rest => .keep (more ++ items) :: rest
  | script => .keep items :: script

/-- Adds a block of shared items, if any are left of it. -/
def keepRest (items : List α) (script : Script α) : Script α :=
  if items.isEmpty then script else .keep items :: script

namespace Focus

/-- Moves the block towards the start as far as it goes. -/
def up (focus : Focus α) : Nat → Focus α
  | 0 => focus
  | fuel + 1 =>
      match focus.before, focus.edit with
      | .keep kept :: before, .insert items =>
          let shared := commonSuffixLength kept items
          if shared = 0 then
            if kept.isEmpty then up ⟨before, .insert items, focus.after⟩ fuel else focus
          else
            let stays := kept.take (kept.length - shared)
            let moves := kept.drop (kept.length - shared)
            up ⟨keepRest stays before,
              .insert (moves ++ items.take (items.length - shared)),
              keepBefore (items.drop (items.length - shared)) focus.after⟩ fuel
      | .keep kept :: before, .delete items =>
          if kept.isEmpty then up ⟨before, .delete items, focus.after⟩ fuel else focus
      | .insert other :: before, .insert items =>
          up ⟨before, .insert (other ++ items), focus.after⟩ fuel
      | .delete other :: before, .delete items =>
          up ⟨before, .delete (other ++ items), focus.after⟩ fuel
      | .delete other :: before, .insert items =>
          up ⟨before, .insert items, .delete other :: focus.after⟩ fuel
      | .insert other :: before, .delete items =>
          up ⟨before, .delete items, .insert other :: focus.after⟩ fuel
      | _, _ => focus

/-- Moves the block towards the end as far as it goes. -/
def down (focus : Focus α) : Nat → Focus α
  | 0 => focus
  | fuel + 1 =>
      match focus.after, focus.edit with
      | .keep kept :: after, .insert items =>
          let shared := commonPrefixLength kept items
          if shared = 0 then
            if kept.isEmpty then down ⟨focus.before, .insert items, after⟩ fuel else focus
          else
            down ⟨keepAfter (kept.take shared) focus.before,
              .insert (items.drop shared ++ kept.take shared),
              keepRest (kept.drop shared) after⟩ fuel
      | .keep kept :: after, .delete items =>
          if kept.isEmpty then down ⟨focus.before, .delete items, after⟩ fuel else focus
      | .insert other :: after, .insert items =>
          down ⟨focus.before, .insert (items ++ other), after⟩ fuel
      | .delete other :: after, .delete items =>
          down ⟨focus.before, .delete (items ++ other), after⟩ fuel
      | .delete other :: after, .insert items =>
          down ⟨.delete other :: focus.before, .insert items, after⟩ fuel
      | .insert other :: after, .delete items =>
          down ⟨.insert other :: focus.before, .delete items, after⟩ fuel
      | _, _ => focus

end Focus

/-- How many moves a block can make through a script. -/
def Script.weight (script : Script α) : Nat :=
  script.foldr (fun edit weight => edit.items.length + 1 + weight) 0

/-- Moves each block that `chosen` holds of, from the start on. -/
def shiftBlocks (chosen : Edit α → Bool) (before : Script α) :
    Nat → Script α → Script α
  | 0, after => before.reverse ++ after
  | _ + 1, [] => before.reverse
  | fuel + 1, edit :: after =>
      if chosen edit then
        let risen := Focus.up ⟨before, edit, after⟩ (Script.weight before + 1)
        let moved := risen.down (Script.weight risen.after + 1)
        shiftBlocks chosen (moved.edit :: moved.before) fuel moved.after
      else shiftBlocks chosen (edit :: before) fuel after

/-- Whether a block goes. -/
def Edit.isDelete : Edit α → Bool
  | delete _ => true
  | _ => false

/-- Whether a block comes. -/
def Edit.isInsert : Edit α → Bool
  | insert _ => true
  | _ => false

/-- Moves the blocks that go, then those that come. -/
def Script.shift (script : Script α) : Script α :=
  let fuel := (script.weight + 1) * (script.weight + 1)
  shiftBlocks Edit.isInsert [] fuel (shiftBlocks Edit.isDelete [] fuel script)

end Stencil.Diff
