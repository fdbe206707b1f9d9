/-!
# Log events

The pool tells a log what happens to its slabs.  An `Event` holds the numbers
that its line shows; `level`, `message` and `fields` give the line.  A slab is
called a chunk there.
-/

namespace SlabPool

/-- What happens to the slabs of a pool. -/
inductive Event where
  /-- A new slab serves allocations from now on. -/
  | activated (capacity : Nat)
  /-- The replaced slab held no items and its block was given back. -/
  | previousReleased (capacity : Nat)
  /-- The replaced slab joined the retired ones at `position`. -/
  | retired (capacity liveItems position : Nat)
  /-- The retired slab at `position` lost an item. -/
  | retiredItemRemoved (position remaining : Nat)
  /-- A retired slab lost its last item and its block was given back. -/
  | retiredEmptied (capacity : Nat)
  /-- All retired slabs are about to be given back. -/
  | releasingRetired (count : Nat)
  /-- The active slab is about to be given back. -/
  | releasingActive (capacity : Nat)
  /-- The pool has a new slab; `slabs` counts them all. -/
  | grew (capacity nextCapacity slabs itemSize : Nat)
  /-- The pool forgot its items. -/
  | cleared (capacity itemSize : Nat)
  /-- The pool is about to give back all its slabs. -/
  | destroyed (slabs itemSize : Nat)
  deriving DecidableEq, Repr

namespace Event

/-- How much detail a log must ask for to see an event. -/
inductive Level where
  | debug
  | trace
  deriving DecidableEq, Repr

/-- The word for a level in the log. -/
def Level.word : Level → String
  | .debug => "debug"
  | .trace => "trace"

/-- Single items leaving a retired slab are the finest detail. -/
def level : Event → Level
  | .retiredItemRemoved .. => .trace
  | _ => .debug

/-- The sentence of the line. -/
def message : Event → String
  | .activated .. => "chunk activated"
  | .previousReleased .. => "previous active chunk held no items and was released"
  | .retired .. => "chunk retired"
  | .retiredItemRemoved .. => "item removed from retired chunk"
  | .retiredEmptied .. => "retired chunk emptied and released"
  | .releasingRetired .. => "releasing retired chunks"
  | .releasingActive .. => "releasing active chunk"
  | .grew .. => "pool grew"
  | .cleared .. => "pool cleared"
  | .destroyed .. => "pool destroyed"

/-- The numbers of the line, each with its label. -/
def fields : Event → List (String × Nat)
  | .activated capacity => [("capacity", capacity)]
  | .previousReleased capacity => [("capacity", capacity)]
  | .retired capacity liveItems position =>
      [("capacity", capacity), ("live_items", liveItems), ("position", position)]
  | .retiredItemRemoved position remaining =>
      [("position", position), ("remaining", remaining)]
  | .retiredEmptied capacity => [("capacity", capacity)]
  | .releasingRetired count => [("count", count)]
  | .releasingActive capacity => [("capacity", capacity)]
  | .grew capacity nextCapacity slabs itemSize =>
      [("capacity", capacity), ("next_capacity", nextCapacity),
        ("chunks", slabs), ("item_size", itemSize)]
  | .cleared capacity itemSize =>
      [("capacity", capacity), ("item_size", itemSize)]
  | .destroyed slabs itemSize =>
      [("chunks", slabs), ("item_size", itemSize)]

end Event

end SlabPool
