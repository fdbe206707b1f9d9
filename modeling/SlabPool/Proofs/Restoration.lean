import SlabPool.Proofs.Mapping
import SlabPool.Proofs.Reservation

/-!
# An allocation that is taken back leaves no trace

A slot that was just handed out can be given back although everything is
refused, and the pool is then the one before: `Restores`.  If the pool had to
grow first, it is the one that the growth alone leads to.  This holds however
the pool was used before (`Run.restores`).

A pool of items relies on it when an initializer gives up.  The slot is then
given back and its answer is ignored, which is safe as it is always a success:
`restoration_of_run`.
-/

namespace SlabPool

namespace Pool

variable {config : Config} {σ : Type}

/--
The pool is `former` again once the address is given back.  No request is made
for that: it holds for every provider, and memory stays as it is.
-/
def Restores
    (pool : Pool config)
    (address : Nat)
    (former : Pool config) :
    Prop :=
  ∀ (τ : Type) [Provider τ] (memory : Memory τ),
    pool.remove address memory = ⟨.ok (), former, memory⟩

variable [Provider σ] [SeparatingProvider σ]
variable {pool left : Pool config} {memory after : Memory σ} {address : Nat}

/-- A slot that was there to be handed out is there again. -/
theorem Balanced.restores_of_available
    (balanced : pool.Balanced memory)
    (enough : 0 < pool.available)
    (allocated : pool.allocate memory = ⟨.ok address, left, after⟩) :
    after = memory ∧ left.Restores address pool := by
  have sound := balanced.sound
  have whole := sound.available_add_card
  have allocation := allocate_spec balanced
  rw [allocated] at allocation
  cases allocation with
  | served serving service =>
    exact ⟨rfl, fun _ _ other => service.remove_eq sound serving other⟩
  | grown full growth serving service => omega

/-- If the pool grows first, it is the grown pool that serves the slot. -/
theorem Balanced.restores_of_unavailable
    (balanced : pool.Balanced memory)
    (unavailable : pool.available = 0)
    (allocated : pool.allocate memory = ⟨.ok address, left, after⟩) :
    ∃ grown, pool.grow 1 memory = ⟨.ok (), grown, after⟩ ∧
      left.Restores address grown := by
  have growth := growth_spec balanced 1
  rw [balanced.sound.allocate_of_unavailable unavailable] at allocated
  generalize pool.grow 1 memory = outcome at allocated growth
  rcases outcome with ⟨stop | done, grown, later⟩
  · cases allocated
  · dsimp only at allocated
    rw [growth.extend_eq balanced] at allocated
    rcases (growth.balanced balanced).restores_of_available
        (growth.le_available balanced) allocated with
      ⟨rfl, restores⟩
    exact ⟨grown, rfl, restores⟩

omit [SeparatingProvider σ] in
theorem allocate_eq_of_reply
    {world : World config σ}
    (served : Deal.reply ⟨world, .allocate⟩ = .number (some address)) :
    ∃ left after,
      world.pool.allocate world.memory = ⟨.ok address, left, after⟩ ∧
        Deal.after ⟨world, .allocate⟩ = ⟨left, after⟩ := by
  rw [Deal.reply_allocate] at served
  show ∃ left after, _ ∧ World.ofOutcome _ = _
  generalize world.pool.allocate world.memory = outcome at served ⊢
  rcases outcome with ⟨stop | address, left, after⟩ <;> cases served
  exact ⟨left, after, rfl, rfl⟩

/-- The log tells which pool is left when an allocation is taken back. -/
theorem Run.restores
    {deals : List (Deal config σ)}
    {world : World config σ}
    (run : Run deals world)
    (served : Deal.reply ⟨world, .allocate⟩ = .number (some address)) :
    (Deal.renews ⟨world, .allocate⟩ = false →
      (Deal.after ⟨world, .allocate⟩).memory = world.memory ∧
        (Deal.after ⟨world, .allocate⟩).pool.Restores address world.pool) ∧
    (Deal.renews ⟨world, .allocate⟩ = true →
      ∃ grown,
        world.pool.grow 1 world.memory =
            ⟨.ok (), grown, (Deal.after ⟨world, .allocate⟩).memory⟩ ∧
          (Deal.after ⟨world, .allocate⟩).pool.Restores address grown) := by
  have balanced := run.balanced
  rcases allocate_eq_of_reply served with ⟨left, after, allocated, reached⟩
  rw [Deal.renews, reached]
  dsimp only
  rcases Nat.eq_zero_or_pos world.pool.available with unavailable | enough
  · rcases balanced.restores_of_unavailable unavailable allocated with
      ⟨grown, grows, restores⟩
    have growth := growth_spec balanced 1
    rw [grows] at growth
    rw [growth.activates]
    exact ⟨nofun, fun _ => ⟨grown, grows, restores⟩⟩
  · rcases balanced.restores_of_available enough allocated with
      ⟨rfl, restores⟩
    rw [activates_of_undisturbed (.refl _)]
    exact ⟨fun _ => ⟨rfl, restores⟩, nofun⟩

/-- A slot that is given back at once leaves the same addresses live. -/
theorem Houses.restored
    {live : Finset Nat}
    (houses : pool.Houses memory live)
    (allocated : pool.allocate memory = ⟨.ok address, left, after⟩) :
    ∃ former,
      left.remove address after = ⟨.ok (), former, after⟩ ∧
        former.Houses after live ∧
          (former = pool ∧ after = memory ∨
            pool.grow 1 memory = ⟨.ok (), former, after⟩) := by
  have balanced := houses.balanced
  rcases Nat.eq_zero_or_pos pool.available with unavailable | enough
  · rcases balanced.restores_of_unavailable unavailable allocated with
      ⟨grown, grows, restores⟩
    have housed := houses.growth (growth_spec balanced 1)
    rw [grows] at housed
    exact ⟨grown, restores σ after, housed, Or.inr grows⟩
  · rcases balanced.restores_of_available enough allocated with
      ⟨rfl, restores⟩
    exact ⟨pool, restores σ after, houses, Or.inl ⟨rfl, rfl⟩⟩

end Pool

/-! ## Initializers that give up -/

namespace ItemPool

variable {config : Config} {σ α : Type} [Provider σ]

/-- An initializer gave up, and the outcome is as if it was never called. -/
structure Undone
    (world : World config σ α)
    (bindings : Bindings α)
    (item : α)
    (message : String)
    (outcome : Outcome (ItemPool config α) σ Nat) :
    Prop where
  /-- The caller goes on giving up. -/
  answer : outcome.answer = .error (.interrupted message)
  /-- The slot was given back, and the answer to that was not a fault. -/
  returned :
    ∃ address slots,
      world.pool.slots.allocate world.memory =
          ⟨.ok address, slots, outcome.memory⟩ ∧
        slots.remove address outcome.memory =
          ⟨.ok (), outcome.pool.slots, outcome.memory⟩
  /-- The pool of slots is the one before, or the one that it grew to. -/
  slots :
    outcome.pool.slots = world.pool.slots ∧ outcome.memory = world.memory ∨
      world.pool.slots.grow 1 world.memory =
        ⟨.ok (), outcome.pool.slots, outcome.memory⟩
  counted :
    world.pool.slots.itemCount = .ok bindings.keys.card ∧
      outcome.pool.slots.itemCount = .ok bindings.keys.card
  items : outcome.pool.items = world.pool.items
  discarded : outcome.pool.discarded = item :: world.pool.discarded
  /-- Every item that is there can be read where it was. -/
  kept :
    ∀ address held, bindings.lookup address = some held →
      outcome.pool.read? address = some held ∧
        outcome.pool.contains address = true

variable [SeparatingProvider σ]

/-- A slot that an initializer gave up is given back without a trace. -/
theorem World.Mirrors.undone
    {world : World config σ α}
    {bindings : Bindings α}
    {imprint : Imprint α}
    (mirrors : world.Mirrors bindings imprint)
    {item : α}
    {message : String}
    (called :
      (world.pool.insertWith (.givesUp item message) world.memory).2 =
        true) :
    Undone world bindings item message
      (world.pool.insertWith (.givesUp item message) world.memory).1 := by
  rcases world with ⟨pool, memory⟩
  have houses := mirrors.houses
  unfold insertWith at called ⊢
  dsimp only at called ⊢
  cases allocated : pool.slots.allocate memory with
  | mk answer left after =>
    rw [allocated] at called
    rcases answer with stop | address
    · cases called
    · rcases houses.restored allocated with
        ⟨former, removed, housed, origin⟩
      have counted := houses.coupled.itemCount_eq houses.balanced.sound
      have recounted := housed.coupled.itemCount_eq housed.balanced.sound
      dsimp only
      rw [removed]
      refine
        { answer := rfl
          returned := ⟨address, left, allocated, removed⟩
          slots := origin
          counted := ⟨counted, recounted⟩
          items := rfl
          discarded := rfl
          kept := ?_ }
      intro other held bound
      have member : other ∈ bindings.keys :=
        Finmap.mem_keys.2 (Finmap.mem_iff.2 ⟨held, bound⟩)
      exact
        ⟨mirrors.stored bound,
          (housed.coupled.contains_iff housed.balanced.sound).2
            (Or.inl member)⟩

/--
Where an allocation is served without growth, nothing but the slot changes, and
to give it back at once restores the pool whatever memory is refused; where the
pool grew, it restores the grown pool.  So a pool of items gives back the slot
of an initializer that gives up, and is as it was before or grown.
-/
theorem restoration_of_run (α : Type) :
    (∀ (deals : List (Pool.Deal config σ)) (world : Pool.World config σ),
      Pool.Run deals world →
      ∀ address,
        Pool.Deal.reply ⟨world, .allocate⟩ = .number (some address) →
        let deal : Pool.Deal config σ := ⟨world, .allocate⟩
        (deal.renews = false →
          deal.after.memory = world.memory ∧
            deal.after.pool.Restores address world.pool) ∧
        (deal.renews = true →
          ∃ grown,
            world.pool.grow 1 world.memory =
                ⟨.ok (), grown, deal.after.memory⟩ ∧
              deal.after.pool.Restores address grown)) ∧
    (∀ (deals : List (Deal config σ α)) (world : World config σ α),
      Run deals world → Abiding deals →
      ∀ item message,
        (world.pool.insertWith (.givesUp item message) world.memory).2 =
          true →
        Undone world (bindings deals) item message
          (world.pool.insertWith (.givesUp item message)
            world.memory).1) := by
  refine ⟨?_, ?_⟩
  · intro deals world run address served
    exact run.restores served
  · intro deals world run abiding item message called
    exact (run.mirrors abiding).undone called

/-- The first of two slots is vacant, and everything is refused from then on. -/
def Sample.vacatedSlot : List (Pool.Request Arena) :=
  [.supply
      { Sample.arena with
        refused := [.slots, .retirement, .marks, .vacancies] },
    .remove Arena.origin, .allocate, .allocate]

/-- Two items fill the first slab. -/
def Sample.twoItems : List (Request Arena Nat) :=
  [.insert 2, .insert 1]

/-- The vacancy is used again and restored; the full pool grows and stays so. -/
theorem restoration_of_vacatedSlot :
    let world : Pool.World Sample.config Arena :=
      Pool.reached Sample.arena Sample.vacatedSlot
    let deal : Pool.Deal Sample.config Arena := ⟨world, .allocate⟩
    let deals : List (Deal Sample.config Arena Nat) :=
      history Sample.arena Sample.twoItems
    let full : World Sample.config Arena Nat :=
      reached Sample.arena Sample.twoItems
    let outcome := (full.pool.insertWith (.givesUp 3 "no") full.memory).1
    deal.reply = .number (some Arena.origin) ∧
      deal.after.memory = world.memory ∧
        deal.after.pool.Restores Arena.origin world.pool ∧
          outcome.pool.slots.activeCapacity = 3 ∧
            Undone full (bindings deals) 3 "no" outcome := by
  intro world deal deals full outcome
  have run : Pool.Run _ world :=
    Pool.run_history Sample.arena Sample.vacatedSlot
  have fullRun : Run deals full := run_history Sample.arena Sample.twoItems
  have abiding : Abiding deals := ⟨⟨trivial, trivial⟩, trivial⟩
  have served : deal.reply = .number (some Arena.origin) := by
    decide +kernel
  rcases @restoration_of_run Sample.config Arena _ _ Nat with
    ⟨allocations, insertions⟩
  rcases (allocations _ world run _ served).1 (by decide +kernel) with
    ⟨kept, restores⟩
  refine ⟨served, kept, restores, by decide +kernel, ?_⟩
  exact insertions deals full fullRun abiding 3 "no" (by decide +kernel)

end ItemPool

end SlabPool
