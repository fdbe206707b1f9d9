import SlabPool.Pool.Allocation
import SlabPool.Pool.Lifecycle
import SlabPool.Pool.Removal
import Std.Data.HashMap

/-!
# Pools that hold items

An `ItemPool` puts items into the slots of a pool and takes them out again.  An
item is moved in when its slot is handed out and moved out when the slot is
given back; in between it stays at its address.

An item that cannot be moved in is discarded, and the pool keeps a list of
those.  Items that are in the pool when it is cleared, destroyed or disposed of
are forgotten: they are neither moved out nor discarded.
-/

namespace SlabPool

/-- A pool with the items in its slots. -/
structure ItemPool (config : Config) (α : Type) where
  /-- The pool of slots. -/
  slots : Pool config
  /-- The item that was last moved to each address and not moved out. -/
  items : Std.HashMap Nat α
  /-- Items that were discarded, the newest first. -/
  discarded : List α

/-- How a caller fills a slot in place. -/
inductive Initializer (α : Type) where
  /-- It writes the item. -/
  | writes (item : α)
  /-- It gives up with a message before it has written the item. -/
  | givesUp (item : α) (message : String)

/-- The item that the initializer brings along. -/
def Initializer.item {α : Type} : Initializer α → α
  | .writes item => item
  | .givesUp item _ => item

namespace ItemPool

variable {config : Config} {σ α : Type}

/-- The pool without slabs and items. -/
def idle : ItemPool config α :=
  ⟨Pool.idle, ∅, []⟩

variable (pool : ItemPool config α)

/-- The item at an address. -/
def read? (address : Nat) : Option α :=
  pool.items[address]?

/-- Destroy an item that is not in the pool. -/
def discard (item : α) : ItemPool config α :=
  { pool with discarded := item :: pool.discarded }

/-- Move an item in; it is discarded if there is no slot for it. -/
def insert
    [Provider σ]
    (item : α)
    (memory : Memory σ) :
    Outcome (ItemPool config α) σ Nat :=
  match pool.slots.allocate memory with
  | ⟨.error stop, slots, memory⟩ =>
    ⟨.error stop, { pool with slots }.discard item, memory⟩
  | ⟨.ok address, slots, memory⟩ =>
    let items := pool.items.insert address item
    ⟨.ok address, { pool with slots, items }, memory⟩

/--
Let the caller fill a slot in place.  Where it gives up, its item is discarded
and the slot is given back.  The second answer tells whether it was called.
-/
def insertWith
    [Provider σ]
    (initializer : Initializer α)
    (memory : Memory σ) :
    Outcome (ItemPool config α) σ Nat × Bool :=
  match pool.slots.allocate memory with
  | ⟨.error stop, slots, memory⟩ =>
    (⟨.error stop, { pool with slots }.discard initializer.item, memory⟩,
      false)
  | ⟨.ok address, slots, memory⟩ =>
    match initializer with
    | .writes item =>
      let items := pool.items.insert address item
      (⟨.ok address, { pool with slots, items }, memory⟩, true)
    | .givesUp item message =>
      let returned := slots.remove address memory
      (⟨.error (.interrupted message),
          { pool with slots := returned.pool }.discard item,
          returned.memory⟩,
        true)

/-- Take the item at an address out of its slot. -/
def moveOut
    (address : Nat)
    (world : Std.HashMap Nat α × Option α) :
    Std.HashMap Nat α × Option α :=
  (world.1.erase address, world.1[address]?)

/--
Move an item out and give its slot back.  The caller promises that an address
at which a slot of the pool starts is one of an item in the pool.  If the pool
breaks off with the item already taken, the item is discarded.
-/
def remove
    [Provider σ]
    (address : Nat)
    (memory : Memory σ) :
    Outcome (ItemPool config α) σ α :=
  match
    pool.slots.removeWith address moveOut (pool.items, none) memory
  with
  | (⟨.error stop, slots, memory⟩, (items, taken)) =>
    let discarded := taken.toList ++ pool.discarded
    ⟨.error stop, { pool with slots, items, discarded }, memory⟩
  | (⟨.ok (), slots, memory⟩, (items, some item)) =>
    ⟨.ok item, { pool with slots, items }, memory⟩
  | (⟨.ok (), slots, memory⟩, (items, none)) =>
    ⟨.error (.breach .itemNotHandedOver),
      { pool with slots, items }, memory⟩

/-- Whether an item starts at the address, as far as the pool can tell. -/
def contains (address : Nat) : Bool :=
  pool.slots.contains address

/-- Make sure that the next `additional` items come without any request. -/
def reserve
    [Provider σ]
    (additional : Nat)
    (memory : Memory σ) :
    Outcome (ItemPool config α) σ Unit :=
  let reserved := pool.slots.reserve additional memory
  ⟨reserved.answer, { pool with slots := reserved.pool }, reserved.memory⟩

/-- Forget all items; only the active slab is kept. -/
def clear (memory : Memory σ) : ItemPool config α × Memory σ :=
  let (slots, memory) := pool.slots.clear memory
  ({ pool with slots }, memory)

/-- Forget all items and give back all memory. -/
def destroy (memory : Memory σ) : ItemPool config α × Memory σ :=
  let (slots, memory) := pool.slots.destroy memory
  ({ pool with slots }, memory)

/-- Dispose of the pool; the items left in it are forgotten. -/
def dispose
    (unwinding : Bool)
    (memory : Memory σ) :
    Outcome (ItemPool config α) σ Unit :=
  let disposed := pool.slots.dispose unwinding memory
  ⟨disposed.answer, { pool with slots := disposed.pool }, disposed.memory⟩

/-- The items of the active slab, by address. -/
def activeItems : Except Breach (List α) :=
  pool.slots.walk.toList.map fun addresses =>
    addresses.filterMap pool.read?

end ItemPool

end SlabPool
