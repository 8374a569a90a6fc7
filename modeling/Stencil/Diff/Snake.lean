/-!
Where a shortest edit path between two lists passes its middle. Paths are searched from
both ends at once, one edit further in each round; on each diagonal the furthest reaching
path is kept. The search ends when a path from one end meets one from the other.
-/

namespace Stencil.Diff

variable {α : Type} [DecidableEq α]

/-- How many items two lists share at their start. -/
def commonPrefixLength : List α → List α → Nat
  | a :: as, b :: bs => if a = b then commonPrefixLength as bs + 1 else 0
  | _, _ => 0

/-- How many items two lists share at their end. -/
def commonSuffixLength (as bs : List α) : Nat := commonPrefixLength as.reverse bs.reverse

/-- How far paths reach on each diagonal, in items of the first list. -/
structure Reach where
  center : Nat
  values : Array Nat

namespace Reach

/-- Room for the diagonals up to `width` on both sides. -/
def ofWidth (width : Nat) : Reach := ⟨width + 1, Array.replicate (2 * width + 3) 0⟩

/-- How far a path reaches on a diagonal. -/
def get (reach : Reach) (diagonal : Int) : Nat :=
  reach.values.getD (diagonal + reach.center).toNat 0

/-- Records how far a path reaches on a diagonal. -/
def set (reach : Reach) (diagonal : Int) (x : Nat) : Reach :=
  { reach with values := reach.values.setIfInBounds (diagonal + reach.center).toNat x }

/-- Where a path with `edits` edits enters a diagonal: from the neighbour that reaches
further. -/
def enter (reach : Reach) (edits diagonal : Int) : Nat :=
  if diagonal = -edits ∨
      (diagonal ≠ edits ∧ reach.get (diagonal - 1) < reach.get (diagonal + 1)) then
    reach.get (diagonal + 1)
  else reach.get (diagonal - 1) + 1

end Reach

/-- How many items are the same from `x` and `y` on. -/
def runForward (a b : Array α) (x y : Nat) : Nat → Nat
  | 0 => 0
  | fuel + 1 =>
      match a[x]?, b[y]? with
      | some c, some d => if c = d then runForward a b (x + 1) (y + 1) fuel + 1 else 0
      | _, _ => 0

/-- How many items are the same before `x` and `y`. -/
def runBackward (a b : Array α) : Nat → Nat → Nat
  | x + 1, y + 1 =>
      match a[x]?, b[y]? with
      | some c, some d => if c = d then runBackward a b x y + 1 else 0
      | _, _ => 0
  | _, _ => 0

/-- The diagonals that paths with `edits` edits may end on, the highest first. -/
def diagonals (edits : Nat) : List Int :=
  (List.range (edits + 1)).map fun (i : Nat) => (edits : Int) - 2 * (i : Int)

/-- One round from the start. Gives the point where a run begins that meets a path from the
end, if one does. -/
def roundForward (a b : Array α) (edits : Nat) (backward : Reach) (reach : Reach) :
    List Int → Reach × Option (Nat × Nat)
  | [] => (reach, none)
  | diagonal :: more =>
      let delta : Int := (a.size : Int) - b.size
      let x := reach.enter edits diagonal
      let y := ((x : Int) - diagonal).toNat
      let reached :=
        if x < a.size && y < b.size then x + runForward a b x y (a.size - x) else x
      let reach := reach.set diagonal reached
      if delta % 2 ≠ 0 ∧ (diagonal - delta).natAbs + 1 ≤ edits ∧
          a.size ≤ reached + backward.get (delta - diagonal) then
        (reach, some (x, y))
      else roundForward a b edits backward reach more

/-- One round from the end. Gives the point where a run ends that meets a path from the
start, if one does. -/
def roundBackward (a b : Array α) (edits : Nat) (forward : Reach) (reach : Reach) :
    List Int → Reach × Option (Nat × Nat)
  | [] => (reach, none)
  | diagonal :: more =>
      let delta : Int := (a.size : Int) - b.size
      let x := reach.enter edits diagonal
      let y := ((x : Int) - diagonal).toNat
      let run :=
        if x < a.size && y < b.size then runBackward a b (a.size - x) (b.size - y) else 0
      let reach := reach.set diagonal (x + run)
      if delta % 2 = 0 ∧ (diagonal - delta).natAbs ≤ edits ∧
          a.size ≤ x + run + forward.get (delta - diagonal) then
        (reach, some (a.size - (x + run), b.size - (y + run)))
      else roundBackward a b edits forward reach more

/-- Rounds of the search, from paths with `edits` edits on. -/
def rounds (a b : Array α) (forward backward : Reach) (edits : Nat) :
    Nat → Option (Nat × Nat)
  | 0 => none
  | fuel + 1 =>
      let (forward, met) := roundForward a b edits backward forward (diagonals edits)
      match met with
      | some point => some point
      | none =>
          let (backward, met) := roundBackward a b edits forward backward (diagonals edits)
          match met with
          | some point => some point
          | none => rounds a b forward backward (edits + 1) fuel

/-- The point where a shortest path passes its middle: how many items of each list lie
before it. -/
def middle (a b : Array α) : Option (Nat × Nat) :=
  let width := (a.size + b.size + 1) / 2 + 1
  rounds a b (.ofWidth width) (.ofWidth width) 0 width

end Stencil.Diff
