import SlabPool.Geometry
import SlabPool.Memory

/-!
# Slabs

A slab is a block of memory divided into slots, the unit in which a pool gets
and gives back memory.  It never moves and never changes its size.

Its live count has two readings.  In the active slab it is the high-water mark,
the number of leading slots that were ever handed out; in a retired slab it is
the exact number of slots still in use.
-/

namespace SlabPool

/-- A block of slots. -/
structure Slab (geometry : Geometry) where
  /-- The address of the first slot. -/
  base : Nat
  /-- The number of slots. -/
  capacity : Nat
  /-- The high-water mark, or the number of slots in use once retired. -/
  live : Nat
  deriving DecidableEq, Repr

namespace Slab

variable {geometry : Geometry}
variable (slab : Slab geometry)

/-- The number of bytes of the slots together. -/
def bytes : Nat :=
  geometry.stride * slab.capacity

/-- The block that holds the slots. -/
def block : Block :=
  ⟨slab.base, slab.bytes, geometry.item.align⟩

/-- The address after the last slot. -/
def finish : Nat :=
  Word.add slab.base slab.bytes

/-- Whether the address lies inside the slab. -/
def covers (address : Nat) : Bool :=
  decide (slab.base ≤ address ∧ address < slab.finish)

/-- The index of the slot that starts at the address. -/
def indexOf? (address : Nat) : Option Nat :=
  if slab.covers address then
    geometry.indexAt? (Word.sub address slab.base)
  else
    none

/-- The address at which a slot starts. -/
def slotAddress (index : Nat) : Except Breach Nat :=
  if index < slab.capacity then
    .ok (Word.add slab.base (Word.mul index geometry.stride))
  else
    .error (.slotOutOfBounds index slab.capacity)

/-- Whether every slot was handed out. -/
def isFull : Bool :=
  decide (slab.capacity ≤ slab.live)

/-- The number of slots never handed out. -/
def untouched : Nat :=
  Word.sub slab.capacity slab.live

/-- Hand out the lowest slot never handed out. -/
def bump : Except Breach (Nat × Slab geometry) :=
  if slab.isFull then
    .error (.bumpOfFull slab.capacity)
  else
    .ok (slab.live, { slab with live := Word.add slab.live 1 })

/-- Lower the live count by one. -/
def decrement : Except Breach (Slab geometry) :=
  if slab.live = 0 then
    .error .liveBelowZero
  else
    .ok { slab with live := slab.live - 1 }

/-- Replace the live count. -/
def withLive (live : Nat) : Except Breach (Slab geometry) :=
  if live ≤ slab.capacity then
    .ok { slab with live }
  else
    .error (.liveAboveCapacity live slab.capacity)

variable {σ : Type}

/-- A new slab in which no slot was handed out. -/
def acquire
    [Provider σ]
    (geometry : Geometry)
    (capacity : Nat)
    (memory : Memory σ) :
    Except Fault (Slab geometry) × Memory σ :=
  match geometry.slabLayout capacity with
  | .error fault => (.error fault, memory)
  | .ok layout =>
    match memory.acquire layout with
    | (some base, memory) => (.ok ⟨base, capacity, 0⟩, memory)
    | (none, memory) =>
      (.error (.allocationFailed layout.size layout.align), memory)

/-- Memory after the slab was given back. -/
def release (memory : Memory σ) : Memory σ :=
  memory.giveBack slab.block

end Slab

end SlabPool
