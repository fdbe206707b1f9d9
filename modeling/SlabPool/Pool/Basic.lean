import SlabPool.Config
import SlabPool.Shelf
import SlabPool.Vacancies

/-!
# Pools

A pool hands out slots for items of one layout and takes them back; a slot
never moves while it is handed out.  Its slabs stand on a shelf.  Slots of the
active slab below its high-water mark that were given back are its vacancies;
all other slots below the mark are in use, and no slot above it is.

The hint is the capacity of the next slab, unless more is asked for.
-/

namespace SlabPool

/-- A pool of slots. -/
structure Pool (config : Config) where
  /-- The slabs of the pool. -/
  shelf : Shelf config.geometry
  /-- The vacant slots of the active slab. -/
  vacancies : Vacancies
  /-- The capacity of the next slab. -/
  hint : Nat
  deriving DecidableEq, Repr

namespace Pool

variable {config : Config}

/-- The pool without slabs. -/
def idle : Pool config :=
  ⟨Shelf.empty, Vacancies.empty, config.firstCapacity⟩

variable (pool : Pool config)

/-- The number of slots of the active slab. -/
def activeCapacity : Nat :=
  match pool.shelf.active with
  | none => 0
  | some active => active.capacity

/-- The number of leading slots of the active slab that were handed out. -/
def highWater : Nat :=
  match pool.shelf.active with
  | none => 0
  | some active => active.live

/-- The number of items in the active slab. -/
def activeItems : Nat :=
  Word.sub pool.highWater pool.vacancies.size

/-- The number of slots that can be handed out before the pool grows. -/
def available : Nat :=
  match pool.shelf.active with
  | none => 0
  | some active => Word.add active.untouched pool.vacancies.size

/-- The number of items in the pool. -/
def itemCount : Except Breach Nat :=
  match pool.shelf.retiredItems with
  | .error breach => .error breach
  | .ok retiredItems =>
    match Word.add? pool.activeItems retiredItems with
    | some total => .ok total
    | none => .error .itemsOverflow

/-- Whether the pool has no items. -/
def isEmpty : Except Breach Bool :=
  pool.itemCount.map fun items => decide (items = 0)

/-- The counts by which a pool describes itself. -/
structure Statistics where
  /-- Items handed out and not given back. -/
  items : Nat
  /-- Slots of all slabs. -/
  slots : Nat
  /-- Slabs. -/
  slabs : Nat
  /-- Retired slabs. -/
  retired : Nat
  /-- Slots of the active slab. -/
  activeCapacity : Nat
  /-- The high-water mark of the active slab. -/
  highWater : Nat
  /-- Vacant slots below the mark. -/
  vacant : Nat
  /-- The capacity of the next slab. -/
  hint : Nat
  deriving DecidableEq, Repr

/-- The counts of the pool. -/
def statistics : Except Breach Statistics :=
  match pool.itemCount, pool.shelf.slotCount with
  | .error breach, _ => .error breach
  | _, .error breach => .error breach
  | .ok items, .ok slots =>
    .ok {
      items, slots
      slabs := pool.shelf.slabCount
      retired := pool.shelf.retiredCount
      activeCapacity := pool.activeCapacity
      highWater := pool.highWater
      vacant := pool.vacancies.size
      hint := pool.hint }

end Pool

end SlabPool
