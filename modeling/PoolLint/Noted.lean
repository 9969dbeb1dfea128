import PoolLint.Event

/-! What happens while values are read. The reader of a value calls itself for the values in it, so it
is entered on one level below the other, and it may note something on the way. -/
namespace PoolLint

inductive ReadStep where
  | enter (level : Nat)
  | note (event : Event)

namespace ReadStep

def event? : ReadStep → Option Event
  | .enter _ => none
  | .note event => some event

def deeper (levels : Nat) : ReadStep → ReadStep
  | .enter level => .enter (level + levels)
  | .note event => .note event

def isWithin (limit : Nat) : ReadStep → Bool
  | .enter level => level ≤ limit
  | .note _ => true

/-- The steps of a reader around those that are taken so many levels below it. -/
def around (levels : Nat) (inner : List ReadStep) : List ReadStep :=
  .enter 1 :: inner.map (deeper levels)

end ReadStep

/-- A value and the steps in which it was read. -/
structure Noted (α : Type) where
  value : α
  steps : List ReadStep

end PoolLint
