import SlabPool.Bisection
import SlabPool.Slab

/-!
# The shelf of slabs

A shelf holds the slabs of one pool.  One of them, the active slab, serves
allocations.  The others are retired: they are kept in the order of their
addresses until their last item leaves.

`locate` finds the slab in which a slot starts.  The active slab is asked
first; among the retired ones only the last that does not start above the
address can cover it.
-/

namespace SlabPool

/-- The slabs of a pool. -/
structure Shelf (geometry : Geometry) where
  /-- The slab that serves allocations. -/
  active : Option (Slab geometry)
  /-- The slabs that wait for their items to leave, by address. -/
  retired : List (Slab geometry)
  /-- How many retired slabs the granted storage holds. -/
  room : Nat
  deriving DecidableEq, Repr

/-- Where on a shelf a slot starts. -/
inductive Place where
  /-- The slot of the active slab with this index. -/
  | active (index : Nat)
  /-- Some slot of the retired slab at this position. -/
  | retired (position : Nat)
  deriving DecidableEq, Repr

namespace Shelf

variable {geometry : Geometry}

/-- The shelf without slabs. -/
def empty : Shelf geometry :=
  ⟨none, [], 0⟩

variable (shelf : Shelf geometry)

/-- The number of retired slabs. -/
def retiredCount : Nat :=
  shelf.retired.length

/-- The number of slabs. -/
def slabCount : Nat :=
  Word.add shelf.retiredCount (if shelf.active.isSome then 1 else 0)

/-- All slabs, the active one first. -/
def slabs : List (Slab geometry) :=
  shelf.active.toList ++ shelf.retired

/-- The number of slots of all slabs together. -/
def slotCount : Except Breach Nat :=
  match Word.sum? (shelf.slabs.map Slab.capacity) with
  | some total => .ok total
  | none => .error .slotsOverflow

/-- The number of items in retired slabs. -/
def retiredItems : Except Breach Nat :=
  match Word.sum? (shelf.retired.map Slab.live) with
  | some total => .ok total
  | none => .error .retiredItemsOverflow

/-- How many retired slabs lead the others in passing the test. -/
def leading (test : Slab geometry → Bool) : Nat :=
  bisect
    (fun position =>
      match shelf.retired[position]? with
      | some slab => test slab
      | none => false)
    0 shelf.retired.length

/-- The retired slab in which a slot starts at the address. -/
def locateRetired (address : Nat) : Option Place :=
  match shelf.leading fun slab => decide (slab.base ≤ address) with
  | 0 => none
  | position + 1 =>
    match shelf.retired[position]? with
    | none => none
    | some candidate =>
      match candidate.indexOf? address with
      | none => none
      | some _ => some (.retired position)

/-- The slab in which a slot starts at the address. -/
def locate (address : Nat) : Option Place :=
  match shelf.active with
  | none => none
  | some active =>
    if active.covers address then
      (active.indexOf? address).map Place.active
    else
      shelf.locateRetired address

/-- The bytes one entry of the list of retired slabs takes. -/
def entryBytes : Nat := 80

/-- The alignment of the list of retired slabs. -/
def entryAlign : Nat := 8

variable {σ : Type}

/-- Make room for one more retired slab, where the storage is full. -/
def reserveRetirement
    [Provider σ]
    (memory : Memory σ) :
    Except Fault (Shelf geometry) × Memory σ :=
  if shelf.retiredCount = shelf.room then
    let room := extendedRoom shelf.room
    match memory.secure .retirement (entryBytes * room) with
    | (true, memory) => (.ok { shelf with room }, memory)
    | (false, memory) =>
      (.error (.allocationFailed entryBytes entryAlign), memory)
  else
    (.ok shelf, memory)

/--
Let a new slab serve allocations.  The slab before it retires with
`previousItems` items, or is given back if there are none.
-/
def activate
    (slab : Slab geometry)
    (previousItems : Nat)
    (memory : Memory σ) :
    Except Breach Unit × Shelf geometry × Memory σ :=
  let memory := memory.note (.activated slab.capacity)
  let activated := { shelf with active := some slab }
  match shelf.active with
  | none => (.ok (), activated, memory)
  | some previous =>
    if previousItems = 0 then
      let memory := memory.note (.previousReleased previous.capacity)
      (.ok (), activated, previous.release memory)
    else
      match previous.withLive previousItems with
      | .error breach => (.error breach, activated, previous.release memory)
      | .ok previous =>
        let position :=
          shelf.leading fun slab => decide (slab.base < previous.base)
        let memory :=
          memory.note (.retired previous.capacity previousItems position)
        let retired := shelf.retired.insertIdx position previous
        (.ok (), { activated with retired }, memory)

/--
Let one item leave a retired slab, which is given back with its last item.
The answer tells whether it was.
-/
def removeRetiredItem
    (position : Nat)
    (memory : Memory σ) :
    Except Breach Bool × Shelf geometry × Memory σ :=
  match shelf.retired[position]? with
  | none => (.error .retiredMissing, shelf, memory)
  | some slab =>
    match slab.decrement with
    | .error breach => (.error breach, shelf, memory)
    | .ok slab =>
      let memory := memory.note (.retiredItemRemoved position slab.live)
      if 0 < slab.live then
        let retired := shelf.retired.set position slab
        (.ok false, { shelf with retired }, memory)
      else
        let memory := memory.note (.retiredEmptied slab.capacity)
        let retired := shelf.retired.eraseIdx position
        (.ok true, { shelf with retired }, slab.release memory)

/-- Memory after these slabs were given back, one after another. -/
def releaseEach
    (slabs : List (Slab geometry))
    (memory : Memory σ) :
    Memory σ :=
  slabs.foldl (fun memory slab => slab.release memory) memory

/-- Give back all retired slabs. -/
def releaseRetired (memory : Memory σ) : Shelf geometry × Memory σ :=
  let memory :=
    if shelf.retired = [] then
      memory
    else
      memory.note (.releasingRetired shelf.retiredCount)
  ({ shelf with retired := [] }, releaseEach shelf.retired memory)

/-- Give back all slabs and the storage of the list. -/
def releaseAll (memory : Memory σ) : Shelf geometry × Memory σ :=
  let (shelf, memory) := shelf.releaseRetired memory
  match shelf.active with
  | none => (empty, memory)
  | some active =>
    let memory := memory.note (.releasingActive active.capacity)
    (empty, active.release memory)

/-- Memory after all slabs were given back without a word to the log. -/
def abandon (memory : Memory σ) : Memory σ :=
  releaseEach shelf.slabs memory

end Shelf

end SlabPool
