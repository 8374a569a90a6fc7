/-!
Counts of keys, in the order of the keys' characters.
-/

namespace Stencil

/-- How often each key was recorded. Keys ascend. -/
structure Census where
  counts : List (String × Nat)
  deriving DecidableEq, Repr

namespace Census

def empty : Census := ⟨[]⟩

/-- Counts `key` once more in a list of ascending keys. -/
def recordIn (key : String) : List (String × Nat) → List (String × Nat)
  | [] => [(key, 1)]
  | (other, count) :: counts =>
      if key = other then (other, count + 1) :: counts
      else if key < other then (key, 1) :: (other, count) :: counts
      else (other, count) :: recordIn key counts

/-- A census with one more of a key. -/
def record (census : Census) (key : String) : Census := ⟨recordIn key census.counts⟩

/-- A census with more keys, in their order. -/
def recordAll (census : Census) (keys : List String) : Census := keys.foldl record census

/-- How often a key was counted, zero for one that never was. -/
def count (census : Census) (key : String) : Nat := (census.counts.lookup key).getD 0

/-- How much was counted of all keys together. -/
def total (census : Census) : Nat := census.counts.foldr (fun entry total => entry.2 + total) 0

def size (census : Census) : Nat := census.counts.length

def isEmpty (census : Census) : Bool := census.counts.isEmpty

/-- The keys, ascending. -/
def keys (census : Census) : List String := census.counts.map Prod.fst

end Census

end Stencil
