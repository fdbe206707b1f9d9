import SlabPool.Proofs.Run

/-!
# No breach and no wrapped word

`Exact` gathers what the operations of a pool take for granted: that its checks
pass, and that the operations on words that wrap give the results of exact
arithmetic.  A sound pool is exact (`Sound.exact`).

`exact_of_run` says so of every world of a run, whatever addresses were given
back and whatever was refused, and that no request is ever replied to with a
breach.
-/

namespace SlabPool

namespace Slab

variable {geometry : Geometry}

/-- The operations of the slab on words are exact, at any of its slots. -/
structure Exact (slab : Slab geometry) : Prop where
  finish : slab.finish = slab.base + slab.bytes
  /-- The offset of a slot and its address. -/
  offset :
    ∀ index < slab.capacity,
      Word.mul index geometry.stride = index * geometry.stride ∧
        slab.slotAddress index = .ok (slab.base + index * geometry.stride)
  /-- The offset of an address inside. -/
  distance :
    ∀ address, slab.covers address = true →
      slab.base ≤ address ∧ Word.sub address slab.base = address - slab.base

theorem Sited.exact
    {slab : Slab geometry}
    (sited : slab.Sited) :
    slab.Exact where
  finish := finish_eq sited
  offset _ inside := ⟨slotOffset_eq sited inside, slotAddress_eq sited inside⟩
  distance address covered := by
    have inside := mem_extent_block.1 ((covers_iff sited).1 covered)
    have bounded := sited.finish_lt
    exact ⟨inside.1, Word.sub_eq inside.1 (by omega)⟩

/-- The mark of the slab can be read, raised, lowered and reset exactly. -/
structure Marked (slab : Slab geometry) : Prop where
  untouched :
    slab.live ≤ slab.capacity ∧ slab.untouched = slab.capacity - slab.live
  bump :
    slab.live < slab.capacity →
      slab.bump = .ok (slab.live, { slab with live := slab.live + 1 })
  /-- The index of the slot below the mark. -/
  top : 0 < slab.live → Word.sub slab.live 1 = slab.live - 1
  reset : slab.withLive 0 = .ok { slab with live := 0 }

theorem Sited.marked
    {slab : Slab geometry}
    (sited : slab.Sited)
    (within : slab.live ≤ slab.capacity) :
    slab.Marked where
  untouched := ⟨within, untouched_eq sited within⟩
  bump := bump_eq sited
  top positive := by
    have bounded := sited.finish_lt
    have slots := slab.capacity_le_bytes
    exact Word.sub_eq positive (by omega)
  reset := if_pos (Nat.zero_le _)

end Slab

namespace Pool

variable {config : Config}

/-- The checks of the pool pass, and its operations on words are exact. -/
structure Exact (pool : Pool config) : Prop where
  itemCount : ∃ items, pool.itemCount = .ok items
  slotCount : ∃ slots, pool.shelf.slotCount = .ok slots
  audit : pool.audit = none
  slabCount :
    pool.shelf.slabCount =
      pool.shelf.retired.length + if pool.shelf.active.isSome then 1 else 0
  activeItems :
    pool.vacancies.size ≤ pool.highWater ∧
      pool.activeItems = pool.highWater - pool.vacancies.size
  available :
    ∀ active, pool.shelf.active = some active →
      pool.available = active.untouched + pool.vacancies.size
  slabs : ∀ slab ∈ pool.shelf.slabs, slab.Exact
  active : ∀ active, pool.shelf.active = some active → active.Marked
  /-- A slab that retires is put within the list of retired slabs. -/
  position : ∀ test, pool.shelf.leading test ≤ pool.shelf.retired.length
  /-- No slab is followed by one without slots. -/
  hint : 0 < pool.hint ∧ ∀ current, 0 < config.capacityAfter current

theorem Sound.exact
    {pool : Pool config}
    (sound : pool.Sound) :
    pool.Exact where
  itemCount := ⟨_, sound.itemCount_eq⟩
  slotCount := ⟨_, sound.orderly.slotCount_eq⟩
  audit := sound.audit_eq_none
  slabCount := by
    rw [sound.orderly.slabCount_eq, Shelf.slabs, List.length_append,
      Nat.add_comm]
    cases pool.shelf.active <;> rfl
  activeItems := by
    have split := sound.card_inUse
    rw [sound.activeItems_eq]
    omega
  available active serving := by
    have split := sound.card_inUse
    have marked := sound.settled.mark_le
    rw [sound.available_eq]
    rw [activeCapacity_of_active serving] at marked ⊢
    rw [highWater_of_active serving] at split marked
    rw [Slab.untouched_eq (sound.orderly.sited_active serving) marked]
    omega
  slabs slab member := (sound.orderly.sited slab member).exact
  active active serving :=
    (sound.orderly.sited_active serving).marked
      (sound.settled_active serving).mark_le
  position := pool.shelf.leading_le
  hint :=
    ⟨sound.hint_pos, fun current =>
      Nat.lt_of_lt_of_le config.firstCapacity_pos
        (config.firstCapacity_le_capacityAfter current)⟩

/--
In every world of a run the pool is exact, as it is halfway through an
allocation that grows it, and no request is replied to with a breach.
-/
theorem exact_of_run
    {σ : Type}
    [Provider σ]
    [SeparatingProvider σ]
    {deals : List (Deal config σ)}
    {world : World config σ}
    (run : Run deals world) :
    world.pool.Exact ∧
      (∀ required, (world.pool.grow required world.memory).pool.Exact) ∧
        ∀ request breach, Deal.reply ⟨world, request⟩ ≠ .ofBreach breach := by
  have balanced := run.balanced
  refine ⟨balanced.sound.exact, ?_, fun request => (run.effect request).unbroken⟩
  intro required
  exact ((growth_spec balanced required).balanced balanced).sound.exact

/-- Stale, foreign and misaligned addresses, and a reservation that is refused. -/
def Sample.misuse : List (Request Arena) :=
  [.slotsInUse, .reserve Word.greatest, .remove (Arena.origin + 25),
    .remove Word.greatest, .remove Arena.origin, .remove Arena.origin,
    .allocate, .allocate, .allocate]

theorem exact_of_misuse :
    let world : World Sample.config Arena :=
      reached Sample.arena Sample.misuse
    world.pool.Exact ∧
      (∀ required, (world.pool.grow required world.memory).pool.Exact) ∧
        ∀ request breach, Deal.reply ⟨world, request⟩ ≠ .ofBreach breach :=
  exact_of_run (run_history Sample.arena Sample.misuse)

end Pool

end SlabPool
