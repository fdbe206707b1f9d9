import SlabPool.Proofs.Issued

/-!
# A pool and its live addresses

While only live addresses are given back, a pool knows all there is to know of
them: in the active slab they are the slots in use, and a retired slab counts
those inside it.  `Coupled` says so; every effect of such a request keeps a pool
and the live addresses coupled (`Effect.coupled`), so that they are in every
world of an abiding run (`Run.coupled`).
-/

namespace SlabPool

namespace Slab

variable {geometry : Geometry} (slab : Slab geometry)

/-- Those of the addresses that lie inside the slab. -/
def occupants (addresses : Finset Nat) : Finset Nat :=
  addresses ∩ slab.block.extent

@[simp]
theorem mem_occupants
    {slab : Slab geometry}
    {addresses : Finset Nat}
    {address : Nat} :
    address ∈ slab.occupants addresses ↔
      address ∈ addresses ∧ address ∈ slab.block.extent :=
  Finset.mem_inter

@[simp]
theorem occupants_empty : slab.occupants ∅ = ∅ :=
  Finset.empty_inter _

theorem occupants_erase
    (addresses : Finset Nat)
    (address : Nat) :
    slab.occupants (addresses.erase address) =
      (slab.occupants addresses).erase address :=
  Finset.erase_inter _ _ _

theorem occupants_erase_of_outside
    {address : Nat}
    (outside : address ∉ slab.block.extent)
    (addresses : Finset Nat) :
    slab.occupants (addresses.erase address) = slab.occupants addresses := by
  rw [occupants_erase, Finset.erase_eq_of_notMem]
  exact fun member => outside (mem_occupants.1 member).2

theorem occupants_insert
    {address : Nat}
    (inside : address ∈ slab.block.extent)
    (addresses : Finset Nat) :
    slab.occupants (insert address addresses) =
      insert address (slab.occupants addresses) :=
  Finset.insert_inter_of_mem inside

theorem occupants_insert_of_outside
    {address : Nat}
    (outside : address ∉ slab.block.extent)
    (addresses : Finset Nat) :
    slab.occupants (insert address addresses) = slab.occupants addresses :=
  Finset.insert_inter_of_notMem outside

end Slab

namespace Pool

variable {config : Config}

/-- The pool knows the live addresses in each of its slabs, and has them all. -/
structure Coupled
    (live : Finset Nat)
    (pool : Pool config) :
    Prop where
  active :
    ∀ active, pool.shelf.active = some active →
      active.occupants live = pool.addresses
  counted :
    ∀ slab ∈ pool.shelf.retired, (slab.occupants live).card = slab.live
  placed : ∀ address ∈ live, ∃ slab ∈ pool.shelf.slabs, slab.Starts address

/-- Where a slot starts in some slab, one still does if the blocks are the same. -/
theorem exists_starts_of_blocks_eq
    {before after : Shelf config.geometry}
    (same : after.slabs.map Slab.block = before.slabs.map Slab.block)
    {address : Nat}
    (placed : ∃ slab ∈ before.slabs, slab.Starts address) :
    ∃ slab ∈ after.slabs, slab.Starts address := by
  rcases placed with ⟨slab, member, starts⟩
  have block : slab.block ∈ after.slabs.map Slab.block := by
    rw [same]
    exact List.mem_map_of_mem member
  rcases List.mem_map.1 block with ⟨other, otherMember, equal⟩
  exact ⟨other, otherMember, starts.of_block_eq equal⟩

variable {pool : Pool config} {live : Finset Nat}

/-! ## A slot of the active slab is served or released -/

/-- A slot of the active slab that is not in use is not live. -/
theorem Coupled.not_mem_of_service
    (coupled : pool.Coupled live)
    (sound : pool.Sound)
    {active : Slab config.geometry}
    (serving : pool.shelf.active = some active)
    {index mark : Nat}
    {vacancies : Vacancies}
    (service : pool.Service active index mark vacancies) :
    active.slotAt index ∉ live := by
  intro member
  have starts : active.Starts (active.slotAt index) :=
    ⟨index, service.lt_capacity sound serving, rfl⟩
  have known : active.slotAt index ∈ pool.addresses := by
    rw [← coupled.active active serving]
    exact Slab.mem_occupants.2 ⟨member, starts.mem_extent⟩
  exact service.not_mem_inUse serving
    ((slotAt_mem_addresses_iff serving).1 known)

theorem Coupled.served
    (coupled : pool.Coupled live)
    (sound : pool.Sound)
    {active : Slab config.geometry}
    (serving : pool.shelf.active = some active)
    {index mark : Nat}
    {vacancies : Vacancies}
    (service : pool.Service active index mark vacancies) :
    (pool.withRecord active mark vacancies).Coupled
      (insert (active.slotAt index) live) := by
  have starts : active.Starts (active.slotAt index) :=
    ⟨index, service.lt_capacity sound serving, rfl⟩
  refine ⟨?_, ?_, ?_⟩
  · intro changed servingChanged
    cases servingChanged
    rw [service.addresses_eq sound serving, ← coupled.active active serving]
    exact active.occupants_insert starts.mem_extent live
  · intro slab retired
    have outside :=
      sound.orderly.outside_of_active serving retired starts.mem_extent
    rw [slab.occupants_insert_of_outside outside]
    exact coupled.counted slab retired
  · intro address member
    rcases Finset.mem_insert.1 member with rfl | earlier
    · exact ⟨_, Shelf.mem_slabs.2 (Or.inl rfl), starts⟩
    · exact
        exists_starts_of_blocks_eq (blocks_withRecord serving mark vacancies)
          (coupled.placed address earlier)

theorem Coupled.released
    (coupled : pool.Coupled live)
    (sound : pool.Sound)
    {active : Slab config.geometry}
    (serving : pool.shelf.active = some active)
    {index mark : Nat}
    {vacancies : Vacancies}
    (release : pool.Release active index mark vacancies) :
    (pool.withRecord active mark vacancies).Coupled
      (live.erase (active.slotAt index)) := by
  have used := release.mem_inUse sound serving
  rw [inUse_of_active serving] at used
  have starts : active.Starts (active.slotAt index) :=
    ⟨index, (sound.settled_active serving).lt_of_mem_inUse used, rfl⟩
  refine ⟨?_, ?_, ?_⟩
  · intro changed servingChanged
    cases servingChanged
    rw [release.addresses_eq serving, ← coupled.active active serving]
    exact active.occupants_erase live _
  · intro slab retired
    have outside :=
      sound.orderly.outside_of_active serving retired starts.mem_extent
    rw [slab.occupants_erase_of_outside outside]
    exact coupled.counted slab retired
  · intro address member
    exact
      exists_starts_of_blocks_eq (blocks_withRecord serving mark vacancies)
        (coupled.placed address (Finset.mem_of_mem_erase member))

/-! ## A retired slab loses an item -/

/-- One of the addresses in a retired slab is no longer live. -/
theorem Coupled.card_occupants_erase
    (coupled : pool.Coupled live)
    {slab : Slab config.geometry}
    (retired : slab ∈ pool.shelf.retired)
    {address : Nat}
    (starts : slab.Starts address)
    (member : address ∈ live) :
    (slab.occupants (live.erase address)).card = slab.live - 1 := by
  rw [slab.occupants_erase, Finset.card_erase_of_mem,
    coupled.counted slab retired]
  exact Slab.mem_occupants.2 ⟨member, starts.mem_extent⟩

theorem Coupled.drained
    (coupled : pool.Coupled live)
    (sound : pool.Sound)
    {position : Nat}
    {slab : Slab config.geometry}
    (found : pool.shelf.retired[position]? = some slab)
    {address : Nat}
    (starts : slab.Starts address)
    (member : address ∈ live) :
    (pool.drained position slab).Coupled (live.erase address) := by
  have retired := List.mem_of_getElem? found
  refine ⟨?_, ?_, ?_⟩
  · intro active serving
    rw [active.occupants_erase, coupled.active active serving]
    exact Finset.erase_eq_of_notMem
      (sound.not_mem_addresses_of_retired retired starts.mem_extent)
  · intro other otherMember
    rcases List.mem_iff_getElem?.1 otherMember with ⟨index, otherFound⟩
    rw [Pool.drained, List.getElem?_set] at otherFound
    split at otherFound
    case isTrue same =>
      split at otherFound
      · cases otherFound
        exact coupled.card_occupants_erase retired starts member
      · cases otherFound
    case isFalse differ =>
      have outside :=
        sound.orderly.outside_of_ne found otherFound differ starts.mem_extent
      rw [other.occupants_erase_of_outside outside]
      exact coupled.counted other (List.mem_of_getElem? otherFound)
  · intro other earlier
    exact
      exists_starts_of_blocks_eq (blocks_drained found)
        (coupled.placed other (Finset.mem_of_mem_erase earlier))

theorem Coupled.relieved
    (coupled : pool.Coupled live)
    (sound : pool.Sound)
    {position : Nat}
    {slab : Slab config.geometry}
    (found : pool.shelf.retired[position]? = some slab)
    {address : Nat}
    (starts : slab.Starts address)
    (member : address ∈ live)
    (last : slab.live = 1) :
    (pool.relieved position).Coupled (live.erase address) := by
  have retired := List.mem_of_getElem? found
  refine ⟨?_, ?_, ?_⟩
  · intro active serving
    rw [active.occupants_erase, coupled.active active serving]
    exact Finset.erase_eq_of_notMem
      (sound.not_mem_addresses_of_retired retired starts.mem_extent)
  · intro other otherMember
    rcases List.mem_eraseIdx_iff_getElem?.1 otherMember with
      ⟨index, differ, otherFound⟩
    have outside :=
      sound.orderly.outside_of_ne found otherFound (Ne.symm differ)
        starts.mem_extent
    rw [other.occupants_erase_of_outside outside]
    exact coupled.counted other (List.mem_of_getElem? otherFound)
  · intro other earlier
    rcases coupled.placed other (Finset.mem_of_mem_erase earlier) with
      ⟨home, homeMember, homeStarts⟩
    have moved := (Shelf.slabs_perm_eraseIdx found).mem_iff.1 homeMember
    rcases List.mem_cons.1 moved with rfl | kept
    · -- The slab had one live address, and it is not live any more.
      have empty := coupled.card_occupants_erase retired starts member
      rw [last, Nat.sub_self, Finset.card_eq_zero] at empty
      have inside : other ∈ home.occupants (live.erase address) :=
        Slab.mem_occupants.2 ⟨earlier, homeStarts.mem_extent⟩
      rw [empty] at inside
      exact (Finset.notMem_empty _ inside).elim
    · exact ⟨home, kept, homeStarts⟩

/-! ## A new slab -/

/-- The live addresses in the active slab are as many as its slots in use. -/
theorem Coupled.card_occupants_active
    (coupled : pool.Coupled live)
    (sound : pool.Sound)
    {active : Slab config.geometry}
    (serving : pool.shelf.active = some active) :
    (active.occupants live).card = pool.inUse.card := by
  rw [coupled.active active serving, card_addresses sound]

/-- The retired slabs beside a new one know the live addresses inside them. -/
theorem Coupled.counted_demotion
    (coupled : pool.Coupled live)
    (sound : pool.Sound)
    {before after : List Block}
    {retired : List (Slab config.geometry)}
    {events : List Event}
    (demotion : pool.Demotion before retired after events)
    {slab : Slab config.geometry}
    (member : slab ∈ retired) :
    (slab.occupants live).card = slab.live := by
  cases demotion with
  | absent inactive => exact coupled.counted slab member
  | released serving unused => exact coupled.counted slab member
  | retired serving used inside ordered =>
    rcases List.eq_or_mem_of_mem_insertIdx member with rfl | earlier
    · have counted := coupled.card_occupants_active sound serving
      exact counted
    · exact coupled.counted slab earlier

/-- A live address still starts a slot beside a new slab. -/
theorem Coupled.placed_demotion
    (coupled : pool.Coupled live)
    {before after : List Block}
    {retired : List (Slab config.geometry)}
    {events : List Event}
    (demotion : pool.Demotion before retired after events)
    {address : Nat}
    (member : address ∈ live) :
    ∃ slab ∈ retired, slab.Starts address := by
  rcases coupled.placed address member with ⟨slab, slabMember, starts⟩
  rw [Shelf.mem_slabs] at slabMember
  cases demotion with
  | absent inactive =>
    rcases slabMember with serving | earlier
    · rw [inactive] at serving
      cases serving
    · exact ⟨slab, earlier, starts⟩
  | released serving unused =>
    rcases slabMember with same | earlier
    · -- No slot of the slab was in use, so the address was not live.
      have known : address ∈ slab.occupants live :=
        Slab.mem_occupants.2 ⟨member, starts.mem_extent⟩
      rw [coupled.active slab same, addresses_of_active same, unused] at known
      exact (Finset.notMem_empty _ known).elim
    · exact ⟨slab, earlier, starts⟩
  | @retired previous position serving used inside ordered =>
    rcases slabMember with same | earlier
    · rw [serving] at same
      cases same
      exact
        ⟨_, (List.mem_insertIdx inside).2 (Or.inl rfl), starts⟩
    · exact
        ⟨slab, (List.mem_insertIdx inside).2 (Or.inr earlier), starts⟩

variable {σ : Type} [Provider σ] [SeparatingProvider σ]

/-- No live address lies in a block that was just granted. -/
theorem Coupled.outside_of_granted
    {memory : Memory σ}
    (coupled : pool.Coupled live)
    (balanced : pool.Balanced memory)
    {block : Block}
    (granted : Granted σ memory.held block)
    {address : Nat}
    (member : address ∈ live) :
    address ∉ block.extent := by
  rcases coupled.placed address member with ⟨slab, slabMember, starts⟩
  have apart :=
    balanced.apart_of_granted granted slab.block
      (List.mem_map_of_mem slabMember)
  exact Finset.disjoint_right.1 apart.disjoint starts.mem_extent

theorem Growth.coupled
    {memory after : Memory σ}
    (balanced : pool.Balanced memory)
    (coupled : pool.Coupled live)
    {required : Nat}
    {grown : Pool config}
    (growth : pool.Growth required memory ⟨.ok (), grown, after⟩) :
    grown.Coupled live := by
  have unused := growth.addresses_eq
  cases growth with
  | replaced bounded capacity untouched granted demotion fits journal =>
    refine ⟨?_, ?_, ?_⟩
    · intro active serving
      cases serving
      rw [unused, Finset.eq_empty_iff_forall_notMem]
      intro address member
      rcases Slab.mem_occupants.1 member with ⟨earlier, inside⟩
      exact coupled.outside_of_granted balanced granted earlier inside
    · intro slab member
      exact coupled.counted_demotion balanced.sound demotion member
    · intro address member
      rcases coupled.placed_demotion demotion member with
        ⟨slab, retired, starts⟩
      exact ⟨slab, Shelf.mem_slabs.2 (Or.inr retired), starts⟩

/-! ## Pool and live addresses stay coupled -/

theorem coupled_of_unused
    (unused : pool.addresses = ∅)
    (unretired : pool.shelf.retired = []) :
    pool.Coupled ∅ where
  active active _ := by
    rw [active.occupants_empty, unused]
  counted slab retired := by
    rw [unretired] at retired
    cases retired
  placed _ member := (Finset.notMem_empty _ member).elim

/-- A request that gives back no address but a live one keeps them coupled. -/
theorem Effect.coupled
    {before after : World config σ}
    {request : Request σ}
    {reply : Reply}
    (balanced : before.pool.Balanced before.memory)
    (coupled : before.pool.Coupled live)
    (permitted : request.Permitted live)
    (effect : Effect before request reply after) :
    after.pool.Coupled (request.track reply live) := by
  have sound := balanced.sound
  cases effect with
  | kept unbroken idle fits undisturbed =>
    rw [idle]
    exact ⟨coupled.active, coupled.counted, coupled.placed⟩
  | served serving service => exact coupled.served sound serving service
  | grown growth => exact growth.coupled balanced coupled
  | grownServed growth serving service =>
    have grown := growth.balanced balanced
    exact (growth.coupled balanced coupled).served grown.sound serving service
  | released serving release undisturbed =>
    exact coupled.released sound serving release
  | counted found starts several =>
    exact coupled.drained sound found starts permitted
  | emptied found starts last =>
    exact coupled.relieved sound found starts permitted last
  | cleared =>
    exact coupled_of_unused (addresses_clear before.pool before.memory) rfl
  | destroyed =>
    have none := balanced.slabs_destroy
    rw [Shelf.slabs, List.append_eq_nil_iff] at none
    exact coupled_of_unused balanced.addresses_destroy none.2

theorem Run.coupled
    {deals : List (Deal config σ)}
    {world : World config σ}
    (run : Run deals world)
    (abiding : Abiding deals) :
    world.pool.Coupled (Pool.live deals) := by
  induction run with
  | start provider => exact coupled_of_unused rfl rfl
  | next run request ih =>
    exact
      (run.effect request).coupled run.balanced (ih abiding.1) abiding.2

end Pool

end SlabPool
