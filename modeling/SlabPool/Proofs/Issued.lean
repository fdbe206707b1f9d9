import SlabPool.Proofs.Run

/-!
# The addresses issued from the active slab

`Pool.addresses` are the addresses of the slots of the active slab that are in
use.  Each way in which a request can change the world changes them as the
request and the reply tell (`Effect.addresses_eq`), so that they are the ones
issued since the slab began to serve (`Run.issued_eq`).
-/

namespace SlabPool.Pool

variable {config : Config}

/-- The addresses of the slots in use of the active slab. -/
def addresses (pool : Pool config) : Finset Nat :=
  match pool.shelf.active with
  | none => ∅
  | some active => pool.inUse.image active.slotAt

theorem addresses_of_active
    {pool : Pool config}
    {active : Slab config.geometry}
    (serving : pool.shelf.active = some active) :
    pool.addresses = pool.inUse.image active.slotAt := by
  rw [addresses, serving]

theorem slotAt_mem_addresses_iff
    {pool : Pool config}
    {active : Slab config.geometry}
    (serving : pool.shelf.active = some active)
    {index : Nat} :
    active.slotAt index ∈ pool.addresses ↔ index ∈ pool.inUse := by
  rw [addresses_of_active serving, active.slotAt_injective.mem_finset_image]

theorem card_addresses
    {pool : Pool config}
    (sound : pool.Sound) :
    pool.addresses.card = pool.inUse.card := by
  cases serving : pool.shelf.active with
  | none =>
    have unmarked := (sound.idle_of_inactive serving).1
    have split := sound.card_inUse
    rw [addresses, serving, Finset.card_empty]
    omega
  | some active =>
    rw [addresses_of_active serving,
      Finset.card_image_of_injective _ active.slotAt_injective]

/-- The addresses are starts of slots of the active slab. -/
theorem Sound.starts_of_mem_addresses
    {pool : Pool config}
    (sound : pool.Sound)
    {address : Nat}
    (member : address ∈ pool.addresses) :
    ∃ active, pool.shelf.active = some active ∧ active.Starts address := by
  cases serving : pool.shelf.active with
  | none =>
    rw [addresses, serving] at member
    exact (Finset.notMem_empty _ member).elim
  | some active =>
    rw [addresses_of_active serving, Finset.mem_image] at member
    rcases member with ⟨index, used, rfl⟩
    rw [inUse_of_active serving] at used
    have inside := (sound.settled_active serving).lt_of_mem_inUse used
    exact ⟨active, rfl, index, inside, rfl⟩

/-- No address in a retired slab is among them. -/
theorem Sound.not_mem_addresses_of_retired
    {pool : Pool config}
    (sound : pool.Sound)
    {slab : Slab config.geometry}
    (retired : slab ∈ pool.shelf.retired)
    {address : Nat}
    (inside : address ∈ slab.block.extent) :
    address ∉ pool.addresses := by
  intro member
  rcases sound.starts_of_mem_addresses member with ⟨active, serving, starts⟩
  exact Finset.disjoint_left.1
    (sound.orderly.active_apart serving retired).disjoint
    starts.mem_extent inside

/-! ## How they change -/

section Change

variable {pool : Pool config} {active : Slab config.geometry}
variable {index mark : Nat} {vacancies : Vacancies}

theorem addresses_withRecord
    (pool : Pool config)
    (active : Slab config.geometry)
    (mark : Nat)
    (vacancies : Vacancies) :
    (pool.withRecord active mark vacancies).addresses =
      (vacancies.inUse mark).image active.slotAt :=
  rfl

theorem Service.addresses_eq
    (sound : pool.Sound)
    (serving : pool.shelf.active = some active)
    (service : pool.Service active index mark vacancies) :
    (pool.withRecord active mark vacancies).addresses =
      insert (active.slotAt index) pool.addresses := by
  rw [addresses_withRecord, service.inUse_eq sound serving,
    addresses_of_active serving, Finset.image_insert]

theorem Release.addresses_eq
    (serving : pool.shelf.active = some active)
    (release : pool.Release active index mark vacancies) :
    (pool.withRecord active mark vacancies).addresses =
      pool.addresses.erase (active.slotAt index) := by
  rw [addresses_withRecord, release.inUse_eq serving,
    addresses_of_active serving, Finset.image_erase active.slotAt_injective]

/-- A new slab has no slot in use. -/
theorem Growth.addresses_eq
    {σ : Type}
    [Provider σ]
    {required : Nat}
    {memory after : Memory σ}
    {grown : Pool config}
    (growth : pool.Growth required memory ⟨.ok (), grown, after⟩) :
    grown.addresses = ∅ := by
  cases growth with
  | replaced bounded capacity untouched granted demotion fits journal =>
    rw [addresses_of_active rfl, inUse_renewed untouched, Finset.image_empty]

theorem addresses_clear
    {σ : Type}
    (pool : Pool config)
    (memory : Memory σ) :
    (pool.clear memory).1.addresses = ∅ := by
  unfold addresses
  split
  · rfl
  · rw [inUse_clear, Finset.image_empty]

theorem Balanced.addresses_destroy
    {σ : Type}
    {memory : Memory σ}
    (balanced : pool.Balanced memory) :
    (pool.destroy memory).1.addresses = ∅ := by
  have none := balanced.slabs_destroy
  rw [Shelf.slabs, List.append_eq_nil_iff] at none
  rw [addresses, Option.toList_eq_nil_iff.1 none.1]

end Change

/-! ## The log tells when a new slab begins to serve -/

section Activation

variable {σ : Type} [Provider σ] {pool : Pool config}
variable {memory after : Memory σ}

theorem Growth.activates
    {required : Nat}
    {grown : Pool config}
    (growth : pool.Growth required memory ⟨.ok (), grown, after⟩) :
    memory.activates after = true := by
  cases growth with
  | @replaced slab retired events room _ bounded capacity untouched granted
      demotion fits journal =>
    have news :
        after.journal =
          (.grew slab.capacity (config.capacityAfter slab.capacity)
              (retired.length + 1) config.geometry.item.size ::
            (events ++ [.activated slab.capacity])) ++ memory.journal := by
      rw [journal, List.cons_append, List.append_assoc, List.singleton_append]
    rw [Memory.activates, Memory.newsTo_eq news, List.any_eq_true]
    exact ⟨.activated slab.capacity, by simp, rfl⟩

omit [Provider σ] in
theorem activates_of_undisturbed
    (undisturbed : memory.Undisturbed after) :
    memory.activates after = false := by
  have news : after.journal = [] ++ memory.journal := undisturbed.journal
  rw [Memory.activates, Memory.newsTo_eq news]
  rfl

omit [Provider σ] in
/-- An item that leaves a retired slab activates no slab. -/
theorem activates_of_retiredItemRemoved
    {position remaining : Nat}
    {rest : List Event}
    (news :
      after.journal =
        (rest ++ [.retiredItemRemoved position remaining]) ++ memory.journal)
    (emptied : rest = [] ∨ ∃ capacity, rest = [.retiredEmptied capacity]) :
    memory.activates after = false := by
  rw [Memory.activates, Memory.newsTo_eq news]
  rcases emptied with rfl | ⟨capacity, rfl⟩ <;> rfl

omit [Provider σ] in
theorem activates_clear
    (pool : Pool config)
    (memory : Memory σ) :
    memory.activates (pool.clear memory).2 = false := by
  have retired := (Memory.Quiet.refl memory).releaseRetired pool.shelf
  have quiet : memory.Quiet (pool.clear memory).2 := retired.note (by nofun)
  exact quiet.activates_eq

omit [Provider σ] in
theorem activates_destroy
    (pool : Pool config)
    (memory : Memory σ) :
    memory.activates (pool.destroy memory).2 = false := by
  unfold destroy
  split
  case isTrue none => exact (Memory.Quiet.refl memory).activates_eq
  case isFalse some =>
    have told (slabs itemSize : Nat) :
        memory.Quiet (memory.note (.destroyed slabs itemSize)) :=
      (Memory.Quiet.refl memory).note nofun
    exact ((told _ _).releaseAll pool.shelf).activates_eq

end Activation

variable {σ : Type} [Provider σ]

/-- The addresses change as the request and the reply tell. -/
theorem Effect.addresses_eq
    [SeparatingProvider σ]
    {before after : World config σ}
    {request : Request σ}
    {reply : Reply}
    (balanced : before.pool.Balanced before.memory)
    (effect : Effect before request reply after) :
    after.pool.addresses =
      request.track reply
        (if before.memory.activates after.memory then
          ∅
        else
          before.pool.addresses) := by
  have sound := balanced.sound
  cases effect with
  | kept unbroken idle fits undisturbed =>
    rw [activates_of_undisturbed undisturbed, idle]
    rfl
  | served serving service =>
    rw [activates_of_undisturbed (.refl _)]
    exact service.addresses_eq sound serving
  | grown growth =>
    rw [growth.activates]
    exact growth.addresses_eq
  | grownServed growth serving service =>
    have grown := growth.balanced balanced
    rw [growth.activates, service.addresses_eq grown.sound serving,
      growth.addresses_eq]
    rfl
  | released serving release undisturbed =>
    rw [activates_of_undisturbed undisturbed]
    exact release.addresses_eq serving
  | counted found starts several =>
    have retired := List.mem_of_getElem? found
    have absent :=
      sound.not_mem_addresses_of_retired retired starts.mem_extent
    rw [activates_of_retiredItemRemoved rfl (Or.inl rfl)]
    exact (Finset.erase_eq_of_notMem absent).symm
  | emptied found starts last =>
    have retired := List.mem_of_getElem? found
    have absent :=
      sound.not_mem_addresses_of_retired retired starts.mem_extent
    rw [activates_of_retiredItemRemoved rfl (Or.inr ⟨_, rfl⟩)]
    exact (Finset.erase_eq_of_notMem absent).symm
  | cleared => exact addresses_clear before.pool before.memory
  | destroyed => exact balanced.addresses_destroy

/-- The slots in use of the active slab are those issued from it. -/
theorem Run.issued_eq
    [SeparatingProvider σ]
    {deals : List (Deal config σ)}
    {world : World config σ}
    (run : Run deals world) :
    issued deals = world.pool.addresses := by
  induction run with
  | start provider => rfl
  | next run request ih =>
    rw [(run.effect request).addresses_eq run.balanced, ← ih]
    rfl

end SlabPool.Pool
