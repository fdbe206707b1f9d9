import SlabPool.Outcome
import SlabPool.Pool.Audit

/-!
# Growth

A pool grows by a new active slab; the one before it retires, or is given back
if it has no items.  All requests for memory come first, so that a pool whose
request is refused is left as it was: room on the shelf, the block of the slab,
the marks of its vacancies.
-/

namespace SlabPool

variable {σ : Type}

/--
Ask for the block of a slab and for the marks of its vacancies.  The block is
given back if the marks are refused.
-/
def Slab.furnish
    [Provider σ]
    (geometry : Geometry)
    (capacity : Nat)
    (memory : Memory σ) :
    Except Fault (Slab geometry × Vacancies) × Memory σ :=
  match acquire geometry capacity memory with
  | (.error fault, memory) => (.error fault, memory)
  | (.ok slab, memory) =>
    match Vacancies.ofCapacity capacity memory with
    | (.error fault, memory) => (.error fault, slab.release memory)
    | (.ok vacancies, memory) => (.ok (slab, vacancies), memory)

namespace Pool

variable {config : Config}
variable (pool : Pool config)

/--
Ask for all that a slab of this capacity needs.  Room on the shelf that was
granted stays, even if a later request is refused.
-/
def prepare
    [Provider σ]
    (capacity : Nat)
    (memory : Memory σ) :
    Except Fault (Slab config.geometry × Vacancies) ×
      Shelf config.geometry × Memory σ :=
  match pool.shelf.reserveRetirement memory with
  | (.error fault, memory) => (.error fault, pool.shelf, memory)
  | (.ok shelf, memory) =>
    let (answer, memory) := Slab.furnish config.geometry capacity memory
    (answer, shelf, memory)

/-- Let a new slab serve allocations, and audit the pool. -/
def install
    (slab : Slab config.geometry)
    (vacancies : Vacancies)
    (memory : Memory σ) :
    Outcome (Pool config) σ Unit :=
  match pool.shelf.activate slab pool.activeItems memory with
  | (.error breach, shelf, memory) =>
    ⟨.error (.breach breach), { pool with shelf }, memory⟩
  | (.ok (), shelf, memory) =>
    let hint := config.capacityAfter slab.capacity
    let grown : Pool config := ⟨shelf, vacancies, hint⟩
    let memory :=
      memory.note
        (.grew slab.capacity hint shelf.slabCount config.geometry.item.size)
    match grown.audit with
    | some breach => ⟨.error (.breach breach), grown, memory⟩
    | none => ⟨.ok (), grown, memory⟩

/-- The capacity of the slab that serves a growth by `required` slots. -/
def grownCapacity (required : Nat) : Nat :=
  max required pool.hint

/-- Let a slab with at least `required` slots serve allocations. -/
def grow
    [Provider σ]
    (required : Nat)
    (memory : Memory σ) :
    Outcome (Pool config) σ Unit :=
  if config.limit < required then
    let fault := Fault.capacityOverflow required config.limit
    ⟨.error (.fault fault), pool, memory⟩
  else
    match pool.prepare (pool.grownCapacity required) memory with
    | (.error fault, shelf, memory) =>
      ⟨.error (.fault fault), { pool with shelf }, memory⟩
    | (.ok (slab, vacancies), shelf, memory) =>
      { pool with shelf }.install slab vacancies memory

/-- Make sure that the next `additional` slots come without any request. -/
def reserve
    [Provider σ]
    (additional : Nat)
    (memory : Memory σ) :
    Outcome (Pool config) σ Unit :=
  if additional ≤ pool.available then
    ⟨.ok (), pool, memory⟩
  else
    pool.grow additional memory

end Pool

end SlabPool
