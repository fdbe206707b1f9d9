import SlabPool.Pool.Growth
import SlabPool.Walk

/-!
# From the first slab to the disposal

A pool can forget its items and keep the active slab, give back all its memory
and start anew, or be disposed of.  Disposal gives back all memory first and
then insists, where the configuration says so, that no items were left.
-/

namespace SlabPool.Pool

variable {config : Config} {σ : Type}

/-- A pool that can hand out `capacity` slots without any request. -/
def withCapacity
    [Provider σ]
    (capacity : Nat)
    (memory : Memory σ) :
    Outcome (Pool config) σ Unit :=
  idle.reserve capacity memory

variable (pool : Pool config)

/-- Forget all items; only the active slab is kept. -/
def clear (memory : Memory σ) : Pool config × Memory σ :=
  let (shelf, memory) := pool.shelf.releaseRetired memory
  let active := shelf.active.map fun slab => { slab with live := 0 }
  let cleared : Pool config :=
    { pool with
      shelf := { shelf with active }
      vacancies := pool.vacancies.wiped }
  let event :=
    Event.cleared cleared.activeCapacity config.geometry.item.size
  (cleared, memory.note event)

/-- Give back all memory; without slabs there is nothing to give back. -/
def destroy (memory : Memory σ) : Pool config × Memory σ :=
  if pool.shelf.slabCount = 0 then
    (pool, memory)
  else
    let event :=
      Event.destroyed pool.shelf.slabCount config.geometry.item.size
    let (shelf, memory) := pool.shelf.releaseAll (memory.note event)
    (⟨shelf, Vacancies.empty, config.firstCapacity⟩, memory)

/--
Dispose of the pool.  The caller may be `unwinding`, that is, giving up after a
breach of its own; then items may be left in any case.
-/
def dispose
    (unwinding : Bool)
    (memory : Memory σ) :
    Outcome (Pool config) σ Unit :=
  match pool.isEmpty with
  | .error breach =>
    ⟨.error (.breach breach), { pool with shelf := .empty },
      pool.shelf.abandon memory⟩
  | .ok wasEmpty =>
    let (pool, memory) := pool.destroy memory
    if config.disposal = .mustBeEmpty ∧ ¬ unwinding ∧ ¬ wasEmpty then
      ⟨.error (.breach .disposedWithItems), pool, memory⟩
    else
      ⟨.ok (), pool, memory⟩

/-- The walk over the slots in use of the active slab, with a copy of the vacancies. -/
def walk : Walk config.geometry :=
  Walk.start pool.shelf.active pool.vacancies.ascending

/-- Show a visitor the address of each slot in use of the active slab. -/
def visitSlots
    {β : Type}
    (visitor : Nat → β → β)
    (seen : β) :
    Except Breach Unit × β :=
  pool.walk.forEach visitor seen

end SlabPool.Pool
