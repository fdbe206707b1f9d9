import SlabPool.Pool.Growth

/-!
# Allocation

A slot comes from the highest vacancy if there is one, else from above the
high-water mark.  Only a pool without an active slab, or with a full one and no
vacancy, grows first.
-/

namespace SlabPool.Pool

variable {config : Config} {σ : Type}
variable (pool : Pool config)

/-- Hand out the slot of a vacancy that was just taken off the record. -/
def refill
    (index : Nat)
    (memory : Memory σ) :
    Outcome (Pool config) σ Nat :=
  match pool.shelf.active with
  | none => ⟨.error (.breach .vacancyWithoutActive), pool, memory⟩
  | some active =>
    ⟨(active.slotAddress index).mapError Stop.breach, pool, memory⟩

/-- Hand out the slot at the high-water mark. -/
def extend (memory : Memory σ) : Outcome (Pool config) σ Nat :=
  match pool.shelf.active with
  | none => ⟨.error (.breach .roomMissing), pool, memory⟩
  | some active =>
    match active.bump with
    | .error breach => ⟨.error (.breach breach), pool, memory⟩
    | .ok (index, active) =>
      let shelf := { pool.shelf with active := some active }
      ⟨(active.slotAddress index).mapError Stop.breach,
        { pool with shelf }, memory⟩

/-- Whether the slots above the high-water mark are used up. -/
def isExhausted : Bool :=
  match pool.shelf.active with
  | none => true
  | some active => active.isFull

/-- Hand out a slot. -/
def allocate
    [Provider σ]
    (memory : Memory σ) :
    Outcome (Pool config) σ Nat :=
  match pool.vacancies.takeHighest with
  | (.error breach, vacancies) =>
    ⟨.error (.breach breach), { pool with vacancies }, memory⟩
  | (.ok (some index), vacancies) =>
    { pool with vacancies }.refill index memory
  | (.ok none, _) =>
    if pool.isExhausted then
      match pool.grow 1 memory with
      | ⟨.error stop, pool, memory⟩ => ⟨.error stop, pool, memory⟩
      | ⟨.ok (), pool, memory⟩ => pool.extend memory
    else
      pool.extend memory

end SlabPool.Pool
