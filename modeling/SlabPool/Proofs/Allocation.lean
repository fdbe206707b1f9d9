import SlabPool.Pool.Allocation
import SlabPool.Proofs.Growth

/-!
# What allocation can lead to

A slot is served by the active slab (`Service`): from its highest vacancy, or
from above its mark if it has none.  `Allocation` lists the ways in which an
allocation can end: a slot was served, growth failed, or the slab of a growth
served its first slot.  `allocate_spec` says that there are no others for a
balanced pool.
-/

namespace SlabPool.Pool

variable {config : Config}

/-- The pool whose active slab has this mark and these vacancies. -/
def withRecord
    (pool : Pool config)
    (active : Slab config.geometry)
    (mark : Nat)
    (vacancies : Vacancies) :
    Pool config :=
  { pool with
    shelf := { pool.shelf with active := some { active with live := mark } }
    vacancies }

/-- A settled record of the active slab leaves the pool sound. -/
theorem Sound.withRecord
    {pool : Pool config}
    (sound : pool.Sound)
    {active : Slab config.geometry}
    (serving : pool.shelf.active = some active)
    {mark : Nat}
    {vacancies : Vacancies}
    (settled : vacancies.Settled active.capacity mark) :
    (pool.withRecord active mark vacancies).Sound where
  orderly := sound.orderly.withMark serving mark
  settled := settled
  fits := sound.fits
  hinted := by
    have hinted := sound.hinted
    rw [dueHint, serving] at hinted
    exact hinted

/-- Neither mark nor vacancies have a part in where the slabs lie. -/
theorem blocks_withRecord
    {pool : Pool config}
    {active : Slab config.geometry}
    (serving : pool.shelf.active = some active)
    (mark : Nat)
    (vacancies : Vacancies) :
    (pool.withRecord active mark vacancies).shelf.slabs.map Slab.block =
      pool.shelf.slabs.map Slab.block := by
  rw [Shelf.slabs_of_active serving]
  rfl

theorem Balanced.withRecord
    {σ : Type}
    {pool : Pool config}
    {memory after : Memory σ}
    (balanced : pool.Balanced memory)
    {active : Slab config.geometry}
    (serving : pool.shelf.active = some active)
    {mark : Nat}
    {vacancies : Vacancies}
    (settled : vacancies.Settled active.capacity mark)
    (held : after.held = memory.held) :
    (pool.withRecord active mark vacancies).Balanced after where
  sound := balanced.sound.withRecord serving settled
  held := by
    rw [held, blocks_withRecord serving]
    exact balanced.held

/-! ## A slot of the active slab -/

/-- The active slab serves a slot; its mark and vacancies then are as given. -/
inductive Service
    (pool : Pool config)
    (active : Slab config.geometry) :
    Nat → Nat → Vacancies → Prop where
  /-- The highest vacancy is used again. -/
  | reused
      {index : Nat}
      {rest : List Nat}
      {written : Marks}
      (highest : pool.vacancies.stack = index :: rest)
      (settled :
        Vacancies.Settled ⟨rest, written, pool.vacancies.room⟩
          active.capacity active.live) :
      Service pool active index active.live
        ⟨rest, written, pool.vacancies.room⟩
  /-- Without vacancies, the slot at the mark is used for the first time. -/
  | extended
      (compact : pool.vacancies.stack = [])
      (room : active.live < active.capacity) :
      Service pool active active.live (active.live + 1) pool.vacancies

namespace Service

variable {pool : Pool config} {active : Slab config.geometry}
variable {index mark : Nat} {vacancies : Vacancies}

theorem settled
    (sound : pool.Sound)
    (serving : pool.shelf.active = some active)
    (service : pool.Service active index mark vacancies) :
    vacancies.Settled active.capacity mark := by
  cases service with
  | reused highest settled => exact settled
  | extended compact room => exact (sound.settled_active serving).extend room

/-- The slot that is served was not in use. -/
theorem not_mem_inUse
    (serving : pool.shelf.active = some active)
    (service : pool.Service active index mark vacancies) :
    index ∉ pool.inUse := by
  rw [inUse_of_active serving, Vacancies.mem_inUse]
  cases service with
  | reused highest settled =>
    rw [highest]
    exact fun used => used.2 List.mem_cons_self
  | extended compact room => exact fun used => Nat.lt_irrefl _ used.1

/-- The slot that is served joins those in use. -/
theorem inUse_eq
    (sound : pool.Sound)
    (serving : pool.shelf.active = some active)
    (service : pool.Service active index mark vacancies) :
    vacancies.inUse mark = insert index pool.inUse := by
  have settled := sound.settled_active serving
  rw [inUse_of_active serving]
  cases service with
  | reused highest _ => exact settled.inUse_take highest _ _
  | extended compact room => exact settled.inUse_extend

theorem card_inUse
    (sound : pool.Sound)
    (serving : pool.shelf.active = some active)
    (service : pool.Service active index mark vacancies) :
    (pool.withRecord active mark vacancies).inUse.card =
      pool.inUse.card + 1 := by
  rw [inUse_of_active rfl, ← Finset.card_insert_of_notMem
    (service.not_mem_inUse serving), ← service.inUse_eq sound serving]
  rfl

theorem lt_capacity
    (sound : pool.Sound)
    (serving : pool.shelf.active = some active)
    (service : pool.Service active index mark vacancies) :
    index < active.capacity := by
  apply (service.settled sound serving).lt_of_mem_inUse
  rw [service.inUse_eq sound serving]
  exact Finset.mem_insert_self index _

end Service

/-! ## Allocation does what it should -/

variable {σ : Type} [Provider σ]

/-- The ways in which an allocation can end. -/
inductive Allocation
    (pool : Pool config)
    (memory : Memory σ) :
    Outcome (Pool config) σ Nat → Prop where
  /-- The active slab had a slot. -/
  | served
      {active : Slab config.geometry}
      {index mark : Nat}
      {vacancies : Vacancies}
      (serving : pool.shelf.active = some active)
      (service : pool.Service active index mark vacancies) :
      Allocation pool memory
        ⟨.ok (active.slotAt index), pool.withRecord active mark vacancies,
          memory⟩
  /-- The active slab had none, and growth failed. -/
  | refused
      {fault : Fault}
      {left : Pool config}
      {after : Memory σ}
      (full : pool.inUse.card = pool.activeCapacity)
      (growth : pool.Growth 1 memory ⟨.error (.fault fault), left, after⟩) :
      Allocation pool memory ⟨.error (.fault fault), left, after⟩
  /-- The active slab had none, and the slab of a growth had one. -/
  | grown
      {grown : Pool config}
      {slab : Slab config.geometry}
      {index mark : Nat}
      {vacancies : Vacancies}
      {after : Memory σ}
      (full : pool.inUse.card = pool.activeCapacity)
      (growth : pool.Growth 1 memory ⟨.ok (), grown, after⟩)
      (serving : grown.shelf.active = some slab)
      (service : grown.Service slab index mark vacancies) :
      Allocation pool memory
        ⟨.ok (slab.slotAt index), grown.withRecord slab mark vacancies,
          after⟩

omit [Provider σ] in
/-- A slab with room above its mark serves the slot there. -/
theorem extend_eq
    {pool : Pool config}
    (sound : pool.Sound)
    {active : Slab config.geometry}
    (serving : pool.shelf.active = some active)
    (room : active.live < active.capacity)
    (memory : Memory σ) :
    pool.extend memory =
      ⟨.ok (active.slotAt active.live),
        pool.withRecord active (active.live + 1) pool.vacancies, memory⟩ := by
  have sited := sound.orderly.sited_active serving
  rw [extend, serving]
  dsimp only
  rw [Slab.bump_eq sited room]
  dsimp only
  rw [Slab.slotAddress_eq (sited.withLive (active.live + 1)) room]
  rfl

omit [Provider σ] in
/-- A pool without vacancies and without room above its mark is full. -/
theorem Sound.card_inUse_of_exhausted
    {pool : Pool config}
    (sound : pool.Sound)
    (compact : pool.vacancies.stack = [])
    (exhausted : pool.isExhausted = true) :
    pool.inUse.card = pool.activeCapacity := by
  have split := sound.card_inUse
  have marked := sound.settled.mark_le
  rw [Vacancies.size, compact, List.length_nil] at split
  cases serving : pool.shelf.active with
  | none =>
    rw [(sound.idle_of_inactive serving).1] at split
    simp only [activeCapacity, serving]
    exact split
  | some active =>
    rw [isExhausted, serving] at exhausted
    have spent : active.capacity ≤ active.live := of_decide_eq_true exhausted
    rw [activeCapacity_of_active serving] at marked ⊢
    rw [highWater_of_active serving] at split marked
    omega

/-- Allocation from a balanced pool ends in one of the ways listed. -/
theorem allocate_spec
    [SeparatingProvider σ]
    {pool : Pool config}
    {memory : Memory σ}
    (balanced : pool.Balanced memory) :
    pool.Allocation memory (pool.allocate memory) := by
  have sound := balanced.sound
  unfold allocate
  cases stacked : pool.vacancies.stack with
  | cons index rest =>
    cases serving : pool.shelf.active with
    | none =>
      rw [(sound.idle_of_inactive serving).2] at stacked
      cases stacked
    | some active =>
      rcases (sound.settled_active serving).takeHighest_eq stacked with
        ⟨written, taken, settled⟩
      have service : pool.Service active index _ _ := .reused stacked settled
      have addressed :=
        Slab.slotAddress_eq (sound.orderly.sited_active serving)
          (service.lt_capacity sound serving)
      rw [taken]
      dsimp only
      rw [refill, serving]
      dsimp only
      rw [addressed]
      have served : pool.Allocation memory _ := .served serving service
      have kept : { active with live := active.live } = active := rfl
      unfold withRecord at served
      rw [kept, ← serving] at served
      exact served
  | nil =>
    have taken :
        pool.vacancies.takeHighest = (.ok none, pool.vacancies) := by
      rw [Vacancies.takeHighest, stacked]
    rw [taken]
    dsimp only
    split
    case isTrue exhausted =>
      have full := sound.card_inUse_of_exhausted stacked exhausted
      have growth := growth_spec balanced 1
      revert growth
      cases pool.grow 1 memory with
      | mk answer left after =>
        intro growth
        have grownBalanced := growth.balanced balanced
        cases growth with
        | excessive beyond => exact .refused full (.excessive beyond)
        | refused bounded fits undisturbed =>
          exact .refused full (.refused bounded fits undisturbed)
        | @replaced slab _ _ _ _ bounded capacity untouched granted demotion
            fits journal =>
          have room : slab.live < slab.capacity := by
            rw [untouched, capacity]
            exact sound.grownCapacity_pos 1
          dsimp only
          rw [extend_eq grownBalanced.sound rfl room]
          exact
            .grown full
              (.replaced bounded capacity untouched granted demotion fits
                journal)
              rfl (.extended rfl room)
    case isFalse notExhausted =>
      cases serving : pool.shelf.active with
      | none =>
        rw [isExhausted, serving] at notExhausted
        exact (notExhausted rfl).elim
      | some active =>
        rw [isExhausted, serving] at notExhausted
        have room : active.live < active.capacity :=
          Nat.lt_of_not_le fun spent => notExhausted (decide_eq_true spent)
        rw [extend_eq sound serving room]
        exact .served serving (.extended stacked room)

end SlabPool.Pool
