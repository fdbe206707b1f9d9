import Mathlib.Data.Finset.Insert
import Mathlib.Order.CompletePartialOrder
import SlabPool.Proofs.Refinement

/-!
# What a pool knows changes at few addresses only

`Pool.known` are the addresses of which the pool says that a slot in use starts
there: those in use in the active slab, and all slots of the retired ones.  Each
way in which a request can change the world changes this set in a way of its
own, and leaves all other addresses as they were.

A slot that is served or released is one address.  A retired slab that is given
back takes all its slots along.  When a new slab begins to serve, the slab
before it either retires, so that all its slots count as in use, or is given
back: `Pool.carried` is what is known then.  `frame_of_run` says so of every
request of a run.
-/

namespace SlabPool

/-- The addresses at which a slot of the slab starts. -/
def Slab.starts {geometry : Geometry} (slab : Slab geometry) : Set Nat :=
  {address | slab.Starts address}

@[simp]
theorem Slab.mem_starts
    {geometry : Geometry}
    {slab : Slab geometry}
    {address : Nat} :
    address ∈ slab.starts ↔ slab.Starts address :=
  Iff.rfl

namespace Shelf

variable {geometry : Geometry}

/-- The addresses at which a slot of the active slab starts. -/
def activeSlots (shelf : Shelf geometry) : Set Nat :=
  {address | ∃ active, shelf.active = some active ∧ active.Starts address}

/-- The addresses at which a slot of a retired slab starts. -/
def retiredSlots (shelf : Shelf geometry) : Set Nat :=
  {address | ∃ slab ∈ shelf.retired, slab.Starts address}

@[simp]
theorem mem_activeSlots
    {shelf : Shelf geometry}
    {address : Nat} :
    address ∈ shelf.activeSlots ↔
      ∃ active, shelf.active = some active ∧ active.Starts address :=
  Iff.rfl

@[simp]
theorem mem_retiredSlots
    {shelf : Shelf geometry}
    {address : Nat} :
    address ∈ shelf.retiredSlots ↔
      ∃ slab ∈ shelf.retired, slab.Starts address :=
  Iff.rfl

theorem activeSlots_of_active
    {shelf : Shelf geometry}
    {active : Slab geometry}
    (serving : shelf.active = some active) :
    shelf.activeSlots = active.starts := by
  ext address
  simp [serving]

theorem Orderly.disjoint_slots
    {shelf : Shelf geometry}
    (orderly : shelf.Orderly) :
    Disjoint shelf.activeSlots shelf.retiredSlots := by
  rw [Set.disjoint_left]
  rintro address ⟨active, serving, starts⟩ ⟨slab, retired, startsRetired⟩
  exact orderly.not_starts_of_retired serving retired startsRetired starts

/-- Where slots of retired slabs start does not depend on their counts. -/
theorem retiredSlots_congr
    {before after : Shelf geometry}
    (blocks :
      after.retired.map Slab.block = before.retired.map Slab.block) :
    after.retiredSlots = before.retiredSlots := by
  have moved
      {left right : Shelf geometry}
      (same : left.retired.map Slab.block = right.retired.map Slab.block) :
      left.retiredSlots ⊆ right.retiredSlots := by
    rintro address ⟨slab, retired, starts⟩
    have placed : slab.block ∈ right.retired.map Slab.block := by
      rw [← same]
      exact List.mem_map_of_mem retired
    rcases List.mem_map.1 placed with ⟨other, otherRetired, equal⟩
    exact ⟨other, otherRetired, starts.of_block_eq equal⟩
  exact Set.Subset.antisymm (moved blocks) (moved blocks.symm)

/-- With a retired slab go its slots, and no others. -/
theorem Orderly.retiredSlots_eraseIdx
    {shelf : Shelf geometry}
    (orderly : shelf.Orderly)
    {position : Nat}
    {slab : Slab geometry}
    (found : shelf.retired[position]? = some slab) :
    ({ shelf with retired := shelf.retired.eraseIdx position } :
        Shelf geometry).retiredSlots =
      shelf.retiredSlots \ slab.starts := by
  ext address
  simp only [Set.mem_sdiff, mem_retiredSlots, Slab.mem_starts]
  constructor
  · rintro ⟨other, kept, starts⟩
    rcases List.mem_eraseIdx_iff_getElem?.1 kept with
      ⟨index, differ, otherFound⟩
    refine ⟨⟨other, List.mem_of_getElem? otherFound, starts⟩, ?_⟩
    intro startsGone
    exact
      orderly.outside_of_ne found otherFound (Ne.symm differ)
        startsGone.mem_extent starts.mem_extent
  · rintro ⟨⟨other, retired, starts⟩, elsewhere⟩
    rcases List.mem_iff_getElem?.1 retired with ⟨index, otherFound⟩
    have differ : index ≠ position := by
      rintro rfl
      cases otherFound.symm.trans found
      exact elsewhere starts
    exact
      ⟨other, List.mem_eraseIdx_iff_getElem?.2 ⟨index, differ, otherFound⟩,
        starts⟩

end Shelf

namespace Pool

variable {config : Config}

/-- The addresses that the pool knows. -/
def known (pool : Pool config) : Set Nat :=
  {address | pool.contains address = true}

@[simp]
theorem mem_known
    {pool : Pool config}
    {address : Nat} :
    address ∈ pool.known ↔ pool.contains address = true :=
  Iff.rfl

/--
What the pool knows once a new slab serves, if these addresses of the slab
before it are in use: that slab retires, or is given back if there are none.
-/
def carried
    (pool : Pool config)
    (used : Finset Nat) :
    Set Nat :=
  if used.Nonempty then
    pool.known ∪ pool.shelf.activeSlots
  else
    pool.known \ pool.shelf.activeSlots

/-- What a pool knows are the slots in use and the slots of retired slabs. -/
theorem Sound.known_eq
    {pool : Pool config}
    (sound : pool.Sound) :
    pool.known = ↑pool.addresses ∪ pool.shelf.retiredSlots := by
  ext address
  exact sound.contains_iff

/-- The addresses in use are slots of the active slab. -/
theorem Sound.addresses_subset
    {pool : Pool config}
    (sound : pool.Sound) :
    ↑pool.addresses ⊆ pool.shelf.activeSlots :=
  fun _ member => sound.starts_of_mem_addresses member

/-! ## How it changes -/

section Change

variable {pool : Pool config} {active : Slab config.geometry}
variable {index mark position : Nat} {vacancies : Vacancies}
variable {slab : Slab config.geometry}

theorem Service.known_eq
    (sound : pool.Sound)
    (serving : pool.shelf.active = some active)
    (service : pool.Service active index mark vacancies) :
    active.slotAt index ∉ pool.known ∧
      (pool.withRecord active mark vacancies).known =
        insert (active.slotAt index) pool.known := by
  have after := sound.withRecord serving (service.settled sound serving)
  have starts : active.Starts (active.slotAt index) :=
    ⟨index, service.lt_capacity sound serving, rfl⟩
  constructor
  · rw [sound.known_eq]
    rintro (used | retired)
    · exact
        service.not_mem_inUse serving
          ((slotAt_mem_addresses_iff serving).1 used)
    · exact
        Set.disjoint_left.1 sound.orderly.disjoint_slots
          ⟨active, serving, starts⟩ retired
  · rw [after.known_eq, sound.known_eq, service.addresses_eq sound serving,
      Finset.coe_insert, Set.insert_union]
    rfl

theorem Release.known_eq
    (sound : pool.Sound)
    (serving : pool.shelf.active = some active)
    (release : pool.Release active index mark vacancies) :
    active.slotAt index ∈ pool.known ∧
      (pool.withRecord active mark vacancies).known =
        pool.known \ {active.slotAt index} := by
  have after := sound.withRecord serving release.settled
  have used := release.mem_inUse sound serving
  have member := (slotAt_mem_addresses_iff serving).2 used
  have outside : active.slotAt index ∉ pool.shelf.retiredSlots :=
    Set.disjoint_left.1 sound.orderly.disjoint_slots
      (sound.addresses_subset member)
  constructor
  · rw [sound.known_eq]
    exact Or.inl member
  · rw [after.known_eq, sound.known_eq, release.addresses_eq serving,
      Finset.coe_erase, Set.union_sdiff_distrib,
      Set.sdiff_singleton_eq_self outside]
    rfl

/-- The slots of a retired slab are known. -/
theorem Sound.starts_subset_known
    (sound : pool.Sound)
    (retired : slab ∈ pool.shelf.retired) :
    slab.starts ⊆ pool.known := by
  intro address starts
  rw [sound.known_eq]
  exact Or.inr ⟨slab, retired, starts⟩

theorem Sound.known_drained
    (sound : pool.Sound)
    (found : pool.shelf.retired[position]? = some slab)
    (after : (pool.drained position slab).Sound) :
    (pool.drained position slab).known = pool.known := by
  have same :
      (pool.drained position slab).shelf.retiredSlots =
        pool.shelf.retiredSlots := by
    apply Shelf.retiredSlots_congr
    exact Slab.map_block_set found (slab.live - 1)
  rw [after.known_eq, sound.known_eq, same]
  rfl

theorem Sound.known_relieved
    (sound : pool.Sound)
    (found : pool.shelf.retired[position]? = some slab)
    (after : (pool.relieved position).Sound) :
    (pool.relieved position).known = pool.known \ slab.starts := by
  have outside : Disjoint (↑pool.addresses : Set Nat) slab.starts := by
    rw [Set.disjoint_left]
    intro address used starts
    exact
      sound.not_mem_addresses_of_retired (List.mem_of_getElem? found)
        starts.mem_extent used
  rw [after.known_eq, sound.known_eq, Set.union_sdiff_distrib,
    outside.sdiff_eq_left,
    ← sound.orderly.retiredSlots_eraseIdx found]
  rfl

/-- An active slab without items takes nothing along that the pool knows. -/
theorem Sound.carried_of_unused
    (sound : pool.Sound)
    (unused : pool.addresses = ∅) :
    pool.carried pool.addresses = pool.shelf.retiredSlots := by
  have apart := sound.orderly.disjoint_slots.symm
  simp [carried, unused, sound.known_eq, apart.sdiff_eq_left]

/-- All slots of an active slab with items are known once it retires. -/
theorem Sound.carried_of_used
    (sound : pool.Sound)
    (used : pool.addresses.Nonempty) :
    pool.carried pool.addresses =
      pool.shelf.activeSlots ∪ pool.shelf.retiredSlots := by
  have inside := sound.addresses_subset
  rw [carried, if_pos used, sound.known_eq, Set.union_right_comm,
    Set.union_eq_self_of_subset_left inside]

/-- The slots of the slabs that are retired beside a new one. -/
theorem Demotion.carried_eq
    {before after : List Block}
    {retired : List (Slab config.geometry)}
    {events : List Event}
    (sound : pool.Sound)
    (demotion : pool.Demotion before retired after events) :
    pool.carried pool.addresses =
      {address | ∃ slab ∈ retired, slab.Starts address} := by
  cases demotion with
  | absent inactive =>
    have unused : pool.addresses = ∅ := by simp [addresses, inactive]
    exact sound.carried_of_unused unused
  | released serving unused =>
    have unissued : pool.addresses = ∅ := by
      simp [addresses_of_active serving, unused]
    exact sound.carried_of_unused unissued
  | @retired previous position serving used inside ordered =>
    have issued : pool.addresses.Nonempty := by
      simpa [addresses_of_active serving] using used
    rw [sound.carried_of_used issued, Shelf.activeSlots_of_active serving]
    ext address
    simp only [Set.mem_union, Slab.mem_starts, Shelf.mem_retiredSlots,
      Set.mem_ofPred_eq, List.mem_insertIdx inside, exists_eq_or_imp]
    rfl

end Change

section Growth

variable {σ : Type} [Provider σ] {pool grown : Pool config}
variable {required : Nat} {memory after : Memory σ}

/-- No slot of the new slab is known yet. -/
theorem Growth.known_eq
    [SeparatingProvider σ]
    (balanced : pool.Balanced memory)
    (growth : pool.Growth required memory ⟨.ok (), grown, after⟩) :
    grown.known = pool.carried pool.addresses := by
  have sound : grown.Sound := (growth.balanced balanced).sound
  rw [sound.known_eq, growth.addresses_eq]
  cases growth with
  | replaced bounded capacity untouched granted demotion fits journal =>
    rw [demotion.carried_eq balanced.sound, Finset.coe_empty, Set.empty_union]
    rfl

/-- The slots of the new slab are none of those before. -/
theorem Growth.disjoint_slots
    [SeparatingProvider σ]
    (balanced : pool.Balanced memory)
    (growth : pool.Growth required memory ⟨.ok (), grown, after⟩) :
    Disjoint grown.shelf.activeSlots
      (pool.shelf.activeSlots ∪ pool.shelf.retiredSlots) := by
  cases growth with
  | @replaced slab retired events room _ bounded capacity untouched granted
      demotion fits journal =>
    have elsewhere
        {other : Slab config.geometry}
        (member : other ∈ pool.shelf.slabs)
        {address : Nat}
        (starts : slab.Starts address) :
        ¬ other.Starts address := by
      intro startsOther
      have apart :=
        balanced.apart_of_granted granted _ (List.mem_map_of_mem member)
      exact Finset.disjoint_left.1 apart.disjoint starts.mem_extent
        startsOther.mem_extent
    rw [Set.disjoint_left]
    rintro address ⟨_, ⟨⟩, starts⟩ (⟨other, serving, startsOther⟩ |
      ⟨other, member, startsOther⟩)
    · exact
        elsewhere (Shelf.mem_slabs.2 (Or.inl serving)) starts startsOther
    · exact elsewhere (Shelf.mem_slabs.2 (Or.inr member)) starts startsOther

end Growth

/-- Everything known is a slot of the active slab or of a retired one. -/
theorem Sound.known_subset
    {pool : Pool config}
    (sound : pool.Sound) :
    pool.known ⊆ pool.shelf.activeSlots ∪ pool.shelf.retiredSlots := by
  rw [sound.known_eq]
  exact Set.union_subset_union_left _ sound.addresses_subset

variable {σ : Type} [Provider σ]

/-! ## One request -/

/--
What a request makes of the addresses known before it, `used` being those in use
in the active slab.
-/
structure Framed
    (before : World config σ)
    (request : Request σ)
    (reply : Reply)
    (after : World config σ)
    (used : Finset Nat) :
    Prop where
  /-- Without a new slab, an allocation adds the address that it serves. -/
  served :
    ∀ address, request = .allocate → reply = .number (some address) →
      before.memory.activates after.memory = false →
        address ∉ before.pool.known ∧
          after.pool.known = insert address before.pool.known
  /-- What is removed is a slot of the active slab or of a retired one. -/
  placed :
    ∀ address, request = .remove address → reply = .done →
      address ∈ before.pool.shelf.activeSlots ∪ before.pool.shelf.retiredSlots
  /-- From the active slab, a removal takes the address, and no other. -/
  released :
    ∀ address, request = .remove address → reply = .done →
      address ∈ before.pool.shelf.activeSlots →
        address ∈ before.pool.known ∧
          after.pool.known = before.pool.known \ {address}
  /-- From a retired slab, only the removal of the last item takes anything. -/
  retired :
    ∀ address, request = .remove address → reply = .done →
      ∀ slab ∈ before.pool.shelf.retired, slab.Starts address →
        slab.starts ⊆ before.pool.known ∧
          after.pool.known =
            if 1 < slab.live then before.pool.known
            else before.pool.known \ slab.starts
  /-- A new slab adds the slots of the slab before it, if some were in use. -/
  renewed :
    before.memory.activates after.memory = true →
      after.pool.known =
        before.pool.carried used ∪
          {address | reply = .number (some address)}
  /-- The address that a new slab serves first is new. -/
  fresh :
    ∀ address, reply = .number (some address) →
      before.memory.activates after.memory = true →
        address ∈ after.pool.shelf.activeSlots ∧
          address ∉ before.pool.shelf.activeSlots ∧
            address ∉ before.pool.known
  /-- A request for room that is there already changes nothing. -/
  reserved :
    ∀ additional, request = .reserve additional →
      before.memory.activates after.memory = false →
        after.pool.known = before.pool.known
  /-- A request that fails changes nothing. -/
  failed :
    ∀ stop, reply = .stopped stop → after.pool.known = before.pool.known
  /-- Questions change nothing, nor does another provider. -/
  asked :
    (∃ address, request = .contains address) ∨ request = .slotsInUse ∨
        (∃ provider, request = .supply provider) →
      after.pool.known = before.pool.known
  /-- Clearing and destruction forget everything. -/
  forgotten :
    request = .clear ∨ request = .destroy → after.pool.known = ∅

namespace Effect

variable {before after : World config σ} {request : Request σ} {reply : Reply}
variable {address : Nat}

theorem known_allocate
    (sound : before.pool.Sound)
    (effect : Effect before .allocate (.number (some address)) after)
    (same : before.memory.activates after.memory = false) :
    address ∉ before.pool.known ∧
      after.pool.known = insert address before.pool.known := by
  cases effect with
  | kept unbroken idle fits undisturbed =>
    -- With this reply, the address would be among the live ones.
    exact (Finset.insert_ne_empty address ∅ (idle ∅)).elim
  | served serving service => exact service.known_eq sound serving
  | grownServed growth serving service =>
    rw [growth.activates] at same
    cases same

/-- A removal is one from the active slab or one from a retired slab. -/
theorem known_remove
    (balanced : before.pool.Balanced before.memory)
    (effect : Effect before (.remove address) .done after) :
    (address ∈ before.pool.shelf.activeSlots ∧ address ∈ before.pool.known ∧
        after.pool.known = before.pool.known \ {address}) ∨
      ∃ slab ∈ before.pool.shelf.retired, slab.Starts address ∧
        after.pool.known =
          if 1 < slab.live then before.pool.known
          else before.pool.known \ slab.starts := by
  have sound := balanced.sound
  cases effect with
  | kept unbroken idle fits undisturbed =>
    have erased : ({address} : Finset Nat).erase address = {address} := idle _
    simp at erased
  | released serving release undisturbed =>
    have used := release.mem_inUse sound serving
    have issued := (slotAt_mem_addresses_iff serving).2 used
    exact
      Or.inl ⟨sound.addresses_subset issued, release.known_eq sound serving⟩
  | @counted _ position slab found starts several =>
    have drained :
        (before.pool.drained position slab).Balanced before.memory :=
      balanced.drained found several rfl
    refine Or.inr ⟨slab, List.mem_of_getElem? found, starts, ?_⟩
    rw [if_pos several]
    exact sound.known_drained found drained.sound
  | @emptied _ position slab found starts last =>
    have relieved :
        (before.pool.relieved position).Balanced
          (slab.release before.memory) :=
      balanced.relieved found rfl
    refine Or.inr ⟨slab, List.mem_of_getElem? found, starts, ?_⟩
    rw [if_neg (Nat.not_lt_of_le (Nat.le_of_eq last))]
    exact sound.known_relieved found relieved.sound

/-- Only growth activates a slab; the slab may serve a slot at once. -/
theorem growth_of_activates
    (effect : Effect before request reply after)
    (fresh : before.memory.activates after.memory = true) :
    ∃ required grown,
      before.pool.Growth required before.memory
          ⟨.ok (), grown, after.memory⟩ ∧
        ((reply = .done ∧ after.pool = grown) ∨
          ∃ slab index mark vacancies,
            grown.shelf.active = some slab ∧
              grown.Service slab index mark vacancies ∧
                reply = .number (some (slab.slotAt index)) ∧
                  after.pool = grown.withRecord slab mark vacancies) := by
  cases effect with
  | kept unbroken idle fits undisturbed =>
    rw [activates_of_undisturbed undisturbed] at fresh
    cases fresh
  | served serving service =>
    rw [activates_of_undisturbed (.refl _)] at fresh
    cases fresh
  | grown growth => exact ⟨_, _, growth, Or.inl ⟨rfl, rfl⟩⟩
  | grownServed growth serving service =>
    exact
      ⟨1, _, growth, Or.inr ⟨_, _, _, _, serving, service, rfl, rfl⟩⟩
  | released serving release undisturbed =>
    rw [activates_of_undisturbed undisturbed] at fresh
    cases fresh
  | counted found starts several =>
    rw [activates_of_retiredItemRemoved rfl (Or.inl rfl)] at fresh
    cases fresh
  | emptied found starts last =>
    rw [activates_of_retiredItemRemoved rfl (Or.inr ⟨_, rfl⟩)] at fresh
    cases fresh
  | cleared =>
    rw [activates_clear] at fresh
    cases fresh
  | destroyed =>
    rw [activates_destroy] at fresh
    cases fresh

/-- With a new slab, what is known are the carried addresses and the one served. -/
theorem known_renewed
    [SeparatingProvider σ]
    (balanced : before.pool.Balanced before.memory)
    (effect : Effect before request reply after)
    (fresh : before.memory.activates after.memory = true) :
    after.pool.known =
        before.pool.carried before.pool.addresses ∪
          {address | reply = .number (some address)} ∧
      ∀ address, reply = .number (some address) →
        address ∈ after.pool.shelf.activeSlots ∧
          address ∉ before.pool.shelf.activeSlots ∧
            address ∉ before.pool.known := by
  rcases effect.growth_of_activates fresh with
    ⟨required, grown, growth,
      ⟨rfl, same⟩ | ⟨slab, index, mark, vacancies, serving, service, rfl, same⟩⟩
  · refine ⟨?_, nofun⟩
    simp [same, growth.known_eq balanced]
  · have sound : grown.Sound := (growth.balanced balanced).sound
    have starts : slab.Starts (slab.slotAt index) :=
      ⟨index, service.lt_capacity sound serving, rfl⟩
    rw [same]
    constructor
    · ext address
      simp [(service.known_eq sound serving).2, growth.known_eq balanced,
        or_comm, eq_comm]
    · rintro address ⟨⟩
      have elsewhere :=
        Set.disjoint_left.1 (growth.disjoint_slots balanced)
          ⟨slab, serving, starts⟩
      refine ⟨⟨_, rfl, starts⟩, ?_, ?_⟩
      · exact fun slot => elsewhere (Or.inl slot)
      · exact fun known => elsewhere (balanced.sound.known_subset known)

theorem known_failed
    {stop : Stop}
    (effect : Effect before request (.stopped stop) after) :
    after.pool.known = before.pool.known := by
  cases effect with
  | kept unbroken idle fits undisturbed => rfl

theorem known_reserve
    {additional : Nat}
    (effect : Effect before (.reserve additional) reply after)
    (same : before.memory.activates after.memory = false) :
    after.pool.known = before.pool.known := by
  cases effect with
  | kept unbroken idle fits undisturbed => rfl
  | grown growth =>
    rw [growth.activates] at same
    cases same

theorem known_forgotten
    [SeparatingProvider σ]
    (balanced : before.pool.Balanced before.memory)
    (effect : Effect before request reply after)
    (forgets : request = .clear ∨ request = .destroy) :
    after.pool.known = ∅ := by
  have sound := (effect.balanced balanced).sound
  have none : after.pool.shelf.retired = [] ∧ after.pool.addresses = ∅ := by
    rcases forgets with rfl | rfl
    · cases effect with
      | kept unbroken idle fits undisturbed =>
        exact (Finset.singleton_ne_empty 0 (idle {0}).symm).elim
      | cleared => exact ⟨rfl, addresses_clear before.pool before.memory⟩
    · cases effect with
      | kept unbroken idle fits undisturbed =>
        exact (Finset.singleton_ne_empty 0 (idle {0}).symm).elim
      | destroyed =>
        have gone := List.append_eq_nil_iff.1 balanced.slabs_destroy
        exact ⟨gone.2, balanced.addresses_destroy⟩
  ext address
  simp [sound.known_eq, none]

theorem framed
    [SeparatingProvider σ]
    (balanced : before.pool.Balanced before.memory)
    (effect : Effect before request reply after) :
    Framed before request reply after before.pool.addresses where
  served := by
    rintro address rfl rfl same
    exact effect.known_allocate balanced.sound same
  placed := by
    rintro address rfl rfl
    rcases effect.known_remove balanced with
      ⟨serving, -⟩ | ⟨slab, retired, starts, -⟩
    · exact Or.inl serving
    · exact Or.inr ⟨slab, retired, starts⟩
  released := by
    rintro address rfl rfl serving
    rcases effect.known_remove balanced with
      ⟨-, known, same⟩ | ⟨slab, retired, starts, -⟩
    · exact ⟨known, same⟩
    · exact
        (Set.disjoint_left.1 balanced.sound.orderly.disjoint_slots serving
          ⟨slab, retired, starts⟩).elim
  retired := by
    rintro address rfl rfl slab retired starts
    refine ⟨balanced.sound.starts_subset_known retired, ?_⟩
    rcases effect.known_remove balanced with
      ⟨serving, -⟩ | ⟨other, otherRetired, otherStarts, same⟩
    · exact
        (Set.disjoint_left.1 balanced.sound.orderly.disjoint_slots serving
          ⟨slab, retired, starts⟩).elim
    · have equal : other = slab :=
        balanced.sound.orderly.eq_of_mem_extent
          (Shelf.mem_slabs.2 (Or.inr otherRetired))
          (Shelf.mem_slabs.2 (Or.inr retired))
          otherStarts.mem_extent starts.mem_extent
      rw [← equal]
      exact same
  renewed fresh := (effect.known_renewed balanced fresh).1
  fresh address replied fresh :=
    (effect.known_renewed balanced fresh).2 address replied
  reserved := by
    rintro additional rfl same
    exact effect.known_reserve same
  failed := by
    rintro stop rfl
    exact effect.known_failed
  asked := by
    rintro (⟨address, rfl⟩ | rfl | ⟨provider, rfl⟩)
    all_goals
      cases effect with
      | kept unbroken idle fits undisturbed => rfl
  forgotten := effect.known_forgotten balanced

end Effect

/-- Each request of a run changes what is known as its reply and the log tell. -/
theorem frame_of_run
    [SeparatingProvider σ]
    {deals : List (Deal config σ)}
    {world : World config σ}
    (run : Run deals world)
    (request : Request σ) :
    Framed world request (Deal.reply ⟨world, request⟩)
      (Deal.after ⟨world, request⟩) (issued deals) := by
  rw [run.issued_eq]
  exact (run.effect request).framed run.balanced

/-- A slab of two slots is retired, and the first of its items is removed. -/
def Sample.worn : List (Request Arena) :=
  [.remove Arena.origin, .allocate, .allocate, .allocate]

/-- A second removal of that item takes the other one along. -/
theorem frame_of_worn :
    let world : World Sample.config Arena := reached Sample.arena Sample.worn
    let deal : Deal Sample.config Arena := ⟨world, .remove Arena.origin⟩
    let slab : Slab Sample.config.geometry := ⟨Arena.origin, 2, 1⟩
    slab ∈ world.pool.shelf.retired ∧ deal.reply = .done ∧
      Arena.origin + 8 ∈ world.pool.known ∧
        deal.after.pool.known = world.pool.known \ slab.starts := by
  intro world deal slab
  have run : Run (history Sample.arena Sample.worn) world :=
    run_history Sample.arena Sample.worn
  have framed := frame_of_run run (.remove Arena.origin)
  have retired : slab ∈ world.pool.shelf.retired := by decide +kernel
  have done : deal.reply = .done := by decide +kernel
  have first : slab.Starts Arena.origin := ⟨0, by decide, rfl⟩
  have second : slab.Starts (Arena.origin + 8) := ⟨1, by decide, rfl⟩
  rcases framed.retired Arena.origin rfl done slab retired first with
    ⟨known, gone⟩
  exact ⟨retired, done, known second, gone⟩

end Pool

end SlabPool
