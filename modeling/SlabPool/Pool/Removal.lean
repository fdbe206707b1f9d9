import SlabPool.Outcome
import SlabPool.Pool.Basic

/-!
# Removal

A slot is given back by its address.  A slot of the active slab below the
highest one in use becomes a vacancy, which may need room on record.  The
highest one lowers the high-water mark instead, past every vacancy below it.  A
slot of a retired slab is only counted.

Whoever gives a slot back may act on it (take its item out) after all checks
have passed and before the slot can be handed out again.
-/

namespace SlabPool.Pool

variable {config : Config} {σ : Type}
variable (pool : Pool config)

/-- Lower the mark of a slab past the vacancies directly below it. -/
def settle :
    List Nat →
    Marks →
    Slab config.geometry →
    Except Breach Unit × List Nat × Marks × Slab config.geometry
  | [], marks, slab => (.ok (), [], marks, slab)
  | top :: rest, marks, slab =>
    if top + 1 = slab.live then
      match marks.write? top false with
      | none => (.error .vacancyBeyondMarks, rest, marks, slab)
      | some marks =>
        match slab.decrement with
        | .error breach => (.error breach, rest, marks, slab)
        | .ok slab => settle rest marks slab
    else
      (.ok (), top :: rest, marks, slab)

/-- Give back the highest slot in use. -/
def lower
    (active : Slab config.geometry) :
    Except Breach Unit × Pool config :=
  match active.decrement with
  | .error breach => (.error breach, pool)
  | .ok active =>
    match settle pool.vacancies.stack pool.vacancies.marks active with
    | (answer, stack, marks, active) =>
      let shelf := { pool.shelf with active := some active }
      let vacancies := { pool.vacancies with stack, marks }
      (answer, { pool with shelf, vacancies })

/--
Give back a slot of the active slab.  `act` is applied to the address and
`world` if, and only if, the slot is in use and its vacancy can be recorded.
-/
def removeActive
    [Provider σ]
    {β : Type}
    (active : Slab config.geometry)
    (index address : Nat)
    (act : Nat → β → β)
    (world : β)
    (memory : Memory σ) :
    Outcome (Pool config) σ Unit × β :=
  if active.live ≤ index ∨ pool.vacancies.contains index then
    (⟨.error (.fault (.doubleRemove address)), pool, memory⟩, world)
  else if index = Word.sub active.live 1 then
    let (answer, pool) := pool.lower active
    (⟨answer.mapError Stop.breach, pool, memory⟩, act address world)
  else
    match pool.vacancies.reserve memory with
    | (.error fault, memory) =>
      (⟨.error (.fault fault), pool, memory⟩, world)
    | (.ok vacancies, memory) =>
      let (answer, vacancies) := vacancies.record index
      (⟨answer.mapError Stop.breach, { pool with vacancies }, memory⟩,
        act address world)

/-- Give back the slot at an address, letting `act` act on it first. -/
def removeWith
    [Provider σ]
    {β : Type}
    (address : Nat)
    (act : Nat → β → β)
    (world : β)
    (memory : Memory σ) :
    Outcome (Pool config) σ Unit × β :=
  match pool.shelf.locate address with
  | none => (⟨.error (.fault (.notOwned address)), pool, memory⟩, world)
  | some (.active index) =>
    match pool.shelf.active with
    | none => (⟨.error (.breach .activeMissing), pool, memory⟩, world)
    | some active =>
      pool.removeActive active index address act world memory
  | some (.retired position) =>
    match pool.shelf.removeRetiredItem position memory with
    | (.error breach, shelf, memory) =>
      (⟨.error (.breach breach), { pool with shelf }, memory⟩,
        act address world)
    | (.ok _, shelf, memory) =>
      (⟨.ok (), { pool with shelf }, memory⟩, act address world)

/-- Give back the slot at an address. -/
def remove
    [Provider σ]
    (address : Nat)
    (memory : Memory σ) :
    Outcome (Pool config) σ Unit :=
  (pool.removeWith address (fun _ world => world) () memory).1

/--
Whether a slot in use starts at the address, as far as the pool can tell: all
slots of a retired slab count as in use.
-/
def contains (address : Nat) : Bool :=
  match pool.shelf.locate address with
  | none => false
  | some (.active index) =>
    decide (index < pool.highWater) && !pool.vacancies.contains index
  | some (.retired _) => true

end SlabPool.Pool
