import SlabPool.Proofs.LiveSet

/-!
# A pool refines a set of addresses

`SetStep` says what a plain set of addresses allows at each request: which
replies may be given, and which set is left.  A new address is aligned, inside
a held block, and its slot shares no byte with the slot of any other address.

`refinement_of_run` says that a pool whose clients abide by the rules is such a
set, that it reports how many addresses there are, and that it knows each of
them.
-/

namespace SlabPool

namespace Shelf.Orderly

variable {geometry : Geometry} {shelf : Shelf geometry}

/-- Slots that start at two addresses share no byte. -/
theorem slots_apart
    (orderly : shelf.Orderly)
    {first second : Slab geometry}
    (firstMember : first ∈ shelf.slabs)
    (secondMember : second ∈ shelf.slabs)
    {left right : Nat}
    (leftStarts : first.Starts left)
    (rightStarts : second.Starts right)
    (differ : left ≠ right) :
    left + geometry.stride ≤ right ∨ right + geometry.stride ≤ left := by
  by_cases same : first.block = second.block
  · have rightInFirst := rightStarts.of_block_eq same
    rcases leftStarts with ⟨lower, -, rfl⟩
    rcases rightInFirst with ⟨upper, -, rfl⟩
    have indices : lower ≠ upper := fun equal => differ (by rw [equal])
    rcases Nat.lt_or_gt_of_ne indices with before | after
    · exact Or.inl (first.slotAt_add_stride_le_slotAt before)
    · exact Or.inr (first.slotAt_add_stride_le_slotAt after)
  · have apart : Block.Apart first.block second.block :=
      orderly.apart.forall (List.mem_map_of_mem firstMember)
        (List.mem_map_of_mem secondMember) same
    have leftFits := leftStarts.add_stride_le
    have rightFits := rightStarts.add_stride_le
    have leftInside := Block.mem_extent.1 leftStarts.mem_extent
    have rightInside := Block.mem_extent.1 rightStarts.mem_extent
    rcases apart with before | after
    · exact Or.inl (by omega)
    · exact Or.inr (by omega)

end Shelf.Orderly

namespace Pool

variable {config : Config} {pool : Pool config} {live : Finset Nat}

/-- What a pool knows: the slots in use of the active slab, all retired ones. -/
theorem Sound.contains_iff
    (sound : pool.Sound)
    {address : Nat} :
    pool.contains address = true ↔
      address ∈ pool.addresses ∨
        ∃ slab ∈ pool.shelf.retired, slab.Starts address := by
  have orderly := sound.orderly
  unfold contains
  constructor
  · intro known
    split at known
    case h_1 => cases known
    case h_2 index located =>
      rcases orderly.locate_eq_active_iff.1 located with
        ⟨active, serving, inside, rfl⟩
      rw [Bool.and_eq_true, decide_eq_true_iff, Bool.not_eq_true',
        highWater_of_active serving] at known
      refine Or.inl ((slotAt_mem_addresses_iff serving).2 ?_)
      rw [inUse_of_active serving, Vacancies.mem_inUse,
        ← sound.settled.contains_iff, known.2]
      exact ⟨known.1, Bool.false_ne_true⟩
    case h_3 position located =>
      rcases orderly.locate_eq_retired_iff.1 located with
        ⟨slab, found, starts⟩
      exact Or.inr ⟨slab, List.mem_of_getElem? found, starts⟩
  · rintro (used | ⟨slab, retired, starts⟩)
    · rcases sound.starts_of_mem_addresses used with
        ⟨active, serving, index, inside, rfl⟩
      have located :=
        orderly.locate_eq_active_iff.2 ⟨active, serving, inside, rfl⟩
      rw [slotAt_mem_addresses_iff serving, inUse_of_active serving,
        Vacancies.mem_inUse, ← sound.settled.contains_iff,
        Bool.not_eq_true] at used
      rw [located]
      dsimp only
      rw [highWater_of_active serving, decide_eq_true used.1, used.2]
      rfl
    · rcases List.mem_iff_getElem?.1 retired with ⟨position, found⟩
      have located := orderly.locate_eq_retired_iff.2 ⟨slab, found, starts⟩
      rw [located]

namespace Coupled

/-- A pool knows the live addresses and the slots of retired slabs. -/
theorem contains_iff
    (coupled : pool.Coupled live)
    (sound : pool.Sound)
    {address : Nat} :
    pool.contains address = true ↔
      address ∈ live ∨ ∃ slab ∈ pool.shelf.retired, slab.Starts address := by
  rw [sound.contains_iff]
  constructor
  · rintro (used | retired)
    · rcases sound.starts_of_mem_addresses used with ⟨active, serving, -⟩
      rw [← coupled.active active serving] at used
      exact Or.inl (Slab.mem_occupants.1 used).1
    · exact Or.inr retired
  · rintro (member | retired)
    · rcases coupled.placed address member with ⟨slab, slabMember, starts⟩
      rcases Shelf.mem_slabs.1 slabMember with serving | retired
      · rw [← coupled.active slab serving]
        exact Or.inl (Slab.mem_occupants.2 ⟨member, starts.mem_extent⟩)
      · exact Or.inr ⟨slab, retired, starts⟩
    · exact Or.inr retired

/-- The pool has as many items as there are live addresses. -/
theorem itemCount_eq
    (coupled : pool.Coupled live)
    (sound : pool.Sound) :
    pool.itemCount = .ok live.card := by
  have inside : live ⊆ Block.extents (pool.shelf.slabs.map Slab.block) := by
    intro address member
    rcases coupled.placed address member with ⟨slab, slabMember, starts⟩
    exact Block.mem_extents.2
      ⟨slab.block, List.mem_map_of_mem slabMember, starts.mem_extent⟩
  have whole := Block.card_inter_extents sound.orderly.apart live
  rw [Finset.inter_eq_left.2 inside, List.map_map] at whole
  have retired :
      (pool.shelf.retired.map fun slab => (slab.occupants live).card) =
        pool.shelf.retired.map Slab.live :=
    List.map_congr_left coupled.counted
  rw [sound.itemCount_eq, whole, ← retired]
  cases serving : pool.shelf.active with
  | none =>
    have unused := card_addresses sound
    rw [addresses, serving, Finset.card_empty] at unused
    rw [← unused, Shelf.slabs, serving, Nat.zero_add]
    rfl
  | some active =>
    rw [Shelf.slabs_of_active serving, List.map_cons, List.sum_cons,
      ← coupled.card_occupants_active sound serving]
    rfl

end Coupled

/-! ## The set of addresses -/

/--
What a plain set of addresses allows at a request: the reply, and the set that
is left.  The held blocks are those after the request.
-/
inductive SetStep
    {σ : Type}
    (geometry : Geometry)
    (held : List Block)
    (live : Finset Nat) :
    Request σ → Reply → Finset Nat → Prop where
  /-- An address joins the set. -/
  | allocated
      {address : Nat}
      (fresh : address ∉ live)
      (aligned : address % geometry.item.align = 0)
      (inside :
        ∃ block ∈ held,
          block.base ≤ address ∧ address + geometry.stride ≤ block.finish)
      (apart :
        ∀ other ∈ live,
          address + geometry.stride ≤ other ∨
            other + geometry.stride ≤ address) :
      SetStep geometry held live .allocate (.number (some address))
        (insert address live)
  | allocationFailed (fault : Fault) :
      SetStep geometry held live .allocate (.ofFault fault) live
  | reserved (additional : Nat) :
      SetStep geometry held live (.reserve additional) .done live
  | reservationFailed (additional : Nat) (fault : Fault) :
      SetStep geometry held live (.reserve additional) (.ofFault fault) live
  /-- An address leaves the set. -/
  | removed {address : Nat} (member : address ∈ live) :
      SetStep geometry held live (.remove address) .done
        (live.erase address)
  /-- Memory for the removal was refused, and nothing else was wrong. -/
  | removalFailed {address : Nat} (member : address ∈ live) (size align : Nat) :
      SetStep geometry held live (.remove address)
        (.ofFault (.allocationFailed size align)) live
  | looked
      {address : Nat}
      {known : Bool}
      (sees : address ∈ live → known = true) :
      SetStep geometry held live (.contains address) (.flag known) live
  | cleared : SetStep geometry held live .clear .done ∅
  | destroyed : SetStep geometry held live .destroy .done ∅
  | listed (addresses : List Nat) :
      SetStep geometry held live .slotsInUse (.numbers addresses) live
  | supplied (provider : σ) :
      SetStep geometry held live (.supply provider) .done live

variable {σ : Type} [Provider σ] {memory : Memory σ}

omit [Provider σ] in
/-- The slot of a live address lies inside a held block. -/
theorem Coupled.inside_held
    (coupled : pool.Coupled live)
    (balanced : pool.Balanced memory)
    {address : Nat}
    (member : address ∈ live) :
    ∃ block ∈ memory.held,
      block.base ≤ address ∧
        address + config.geometry.stride ≤ block.finish := by
  rcases coupled.placed address member with ⟨slab, slabMember, starts⟩
  refine ⟨slab.block, ?_, ?_, starts.add_stride_le⟩
  · exact balanced.held.mem_iff.2 (List.mem_map_of_mem slabMember)
  · exact (Block.mem_extent.1 starts.mem_extent).1

omit [Provider σ] in
theorem Coupled.slots_apart
    (coupled : pool.Coupled live)
    (sound : pool.Sound)
    {left right : Nat}
    (leftMember : left ∈ live)
    (rightMember : right ∈ live)
    (differ : left ≠ right) :
    left + config.geometry.stride ≤ right ∨
      right + config.geometry.stride ≤ left := by
  rcases coupled.placed left leftMember with ⟨first, firstMember, starts⟩
  rcases coupled.placed right rightMember with
    ⟨second, secondMember, otherStarts⟩
  exact sound.orderly.slots_apart firstMember secondMember starts
    otherStarts differ

omit [Provider σ] in
/-- A slot is aligned if its slab is. -/
theorem Coupled.aligned
    (coupled : pool.Coupled live)
    (aligned :
      ∀ block ∈ pool.shelf.slabs.map Slab.block,
        block.base % block.align = 0)
    {address : Nat}
    (member : address ∈ live) :
    address % config.geometry.item.align = 0 := by
  rcases coupled.placed address member with
    ⟨slab, slabMember, index, -, rfl⟩
  exact
    Slab.slotAt_aligned
      (aligned slab.block (List.mem_map_of_mem slabMember)) index

/-! ## What is answered -/

/-- An allocation answers with an address that is not live, or with a fault. -/
theorem Allocation.answer_cases
    [SeparatingProvider σ]
    (balanced : pool.Balanced memory)
    (coupled : pool.Coupled live)
    {outcome : Outcome (Pool config) σ Nat}
    (allocation : pool.Allocation memory outcome) :
    (∃ address, outcome.answer = .ok address ∧ address ∉ live) ∨
      ∃ fault, outcome.answer = .error (.fault fault) := by
  cases allocation with
  | served serving service =>
    have fresh := coupled.not_mem_of_service balanced.sound serving service
    exact Or.inl ⟨_, rfl, fresh⟩
  | @refused fault left after full growth => exact Or.inr ⟨fault, rfl⟩
  | grown full growth serving service =>
    have grown := growth.balanced balanced
    have fresh :=
      (growth.coupled balanced coupled).not_mem_of_service grown.sound
        serving service
    exact Or.inl ⟨_, rfl, fresh⟩

theorem reserve_answer_cases
    [SeparatingProvider σ]
    (balanced : pool.Balanced memory)
    (additional : Nat) :
    (pool.reserve additional memory).answer = .ok () ∨
      ∃ fault, (pool.reserve additional memory).answer =
        .error (.fault fault) := by
  rcases reserve_cases balanced additional with ⟨-, same⟩ | ⟨-, growth⟩
  · rw [same]
    exact Or.inl rfl
  · generalize pool.reserve additional memory = outcome at growth
    cases growth with
    | excessive beyond => exact Or.inr ⟨_, rfl⟩
    | refused bounded fits undisturbed => exact Or.inr ⟨_, rfl⟩
    | replaced bounded capacity untouched granted demotion fits journal =>
      exact Or.inl rfl

/-- A live address is given back, unless memory for that is refused. -/
theorem Coupled.remove_answer_cases
    (coupled : pool.Coupled live)
    (sound : pool.Sound)
    {address : Nat}
    (member : address ∈ live)
    (memory : Memory σ) :
    (pool.remove address memory).answer = .ok () ∨
      ∃ size align, (pool.remove address memory).answer =
        .error (.fault (.allocationFailed size align)) := by
  have removal := remove_spec sound address memory
  generalize pool.remove address memory = outcome at removal
  cases removal with
  | foreign nowhere =>
    rcases coupled.placed address member with ⟨slab, slabMember, starts⟩
    exact (nowhere slab slabMember starts).elim
  | @vacant active index serving inside addressed unused =>
    subst addressed
    have starts : active.Starts (active.slotAt index) :=
      ⟨index, inside, rfl⟩
    have known : active.slotAt index ∈ active.occupants live :=
      Slab.mem_occupants.2 ⟨member, starts.mem_extent⟩
    rw [coupled.active active serving,
      slotAt_mem_addresses_iff serving] at known
    exact (unused known).elim
  | refused serving addressed used below undisturbed =>
    exact Or.inr ⟨_, _, rfl⟩
  | released serving addressed release undisturbed => exact Or.inl rfl
  | counted found starts several => exact Or.inl rfl
  | emptied found starts last => exact Or.inl rfl

/-! ## The refinement -/

/-- A step of an abiding run is a step of the set of live addresses. -/
theorem Run.setStep
    [LawfulProvider σ]
    {deals : List (Deal config σ)}
    {world : World config σ}
    (run : Run deals world)
    {request : Request σ}
    (abiding : Abiding (⟨world, request⟩ :: deals)) :
    SetStep config.geometry (Deal.after ⟨world, request⟩).memory.held
      (Pool.live deals) request (Deal.reply ⟨world, request⟩)
      (Pool.live (⟨world, request⟩ :: deals)) := by
  have balanced := run.balanced
  have coupled := run.coupled abiding.1
  have laterRun := run.next request
  have later := laterRun.coupled abiding
  have tracked :
      Pool.live (⟨world, request⟩ :: deals) =
        request.track (Deal.reply ⟨world, request⟩) (Pool.live deals) :=
    rfl
  cases request with
  | allocate =>
    rw [Deal.reply_allocate] at tracked ⊢
    rcases (allocate_spec balanced).answer_cases balanced coupled with
      ⟨address, answer, fresh⟩ | ⟨fault, answer⟩
    · rw [answer] at tracked ⊢
      rw [tracked] at later ⊢
      have joined : address ∈ insert address (Pool.live deals) :=
        Finset.mem_insert_self _ _
      refine
        .allocated fresh (later.aligned laterRun.aligned joined)
          (later.inside_held laterRun.balanced joined) ?_
      intro other otherMember
      exact
        later.slots_apart laterRun.balanced.sound joined
          (Finset.mem_insert_of_mem otherMember)
          fun same => fresh (same ▸ otherMember)
    · rw [tracked, answer]
      exact .allocationFailed fault
  | reserve additional =>
    rw [tracked, Deal.reply_reserve]
    rcases reserve_answer_cases balanced additional with
      answer | ⟨fault, answer⟩
    · rw [answer]
      exact .reserved additional
    · rw [answer]
      exact .reservationFailed additional fault
  | remove address =>
    have member : address ∈ Pool.live deals := abiding.2
    rw [tracked, Deal.reply_remove]
    rcases coupled.remove_answer_cases balanced.sound member world.memory with
      answer | ⟨size, align, answer⟩
    · rw [answer]
      exact .removed member
    · rw [answer]
      exact .removalFailed member size align
  | contains address =>
    exact
      .looked fun member =>
        (coupled.contains_iff balanced.sound).2 (Or.inl member)
  | clear => exact .cleared
  | destroy => exact .destroyed
  | slotsInUse =>
    rcases balanced.sound.exists_walk_toList_eq with ⟨addresses, walked⟩
    rw [tracked, Deal.reply_slotsInUse, walked]
    exact .listed addresses
  | supply provider => exact .supplied provider

/--
Throughout an abiding run the pool is the set of live addresses: each request
is replied to as the set allows, the slots of the live addresses lie inside
held blocks, the pool knows the live addresses and, but for other slots of
retired slabs, no more, it knows no other address in the active slab, and it
counts the live ones.
-/
theorem refinement_of_run
    [LawfulProvider σ]
    {deals : List (Deal config σ)}
    {world : World config σ}
    (run : Run deals world)
    (abiding : Abiding deals) :
    (∀ request, Abiding (⟨world, request⟩ :: deals) →
      SetStep config.geometry (Deal.after ⟨world, request⟩).memory.held
        (Pool.live deals) request (Deal.reply ⟨world, request⟩)
        (Pool.live (⟨world, request⟩ :: deals))) ∧
    (∀ address ∈ Pool.live deals, ∃ block ∈ world.memory.held,
      block.base ≤ address ∧
        address + config.geometry.stride ≤ block.finish) ∧
    (∀ address,
      world.pool.contains address = true ↔
        address ∈ Pool.live deals ∨
          ∃ slab ∈ world.pool.shelf.retired, slab.Starts address) ∧
    (∀ active, world.pool.shelf.active = some active →
      ∀ address ∈ active.block.extent,
        world.pool.contains address = true ↔ address ∈ Pool.live deals) ∧
    world.pool.itemCount = .ok (Pool.live deals).card := by
  have balanced := run.balanced
  have coupled := run.coupled abiding
  refine ⟨fun request permitted => run.setStep permitted, ?_, ?_, ?_, ?_⟩
  · exact fun address member => coupled.inside_held balanced member
  · exact fun address => coupled.contains_iff balanced.sound
  · intro active serving address inside
    rw [coupled.contains_iff balanced.sound, or_iff_left]
    rintro ⟨slab, retired, starts⟩
    exact balanced.sound.orderly.outside_of_active serving retired inside
      starts.mem_extent
  · exact coupled.itemCount_eq balanced.sound

/--
Four slots in two slabs, of which one of each was given back, while no storage
is granted for vacancies.
-/
def Sample.twoSlabs : List (Request Arena) :=
  [.remove (Arena.origin + 24), .remove (Arena.origin + 16),
    .supply { Sample.arena with cursor := 40, refused := [.vacancies] },
    .remove Arena.origin, .allocate, .allocate, .allocate, .allocate]

theorem refinement_of_twoSlabs :
    let deals : List (Deal Sample.config Arena) :=
      history Sample.arena Sample.twoSlabs
    let world : World Sample.config Arena :=
      reached Sample.arena Sample.twoSlabs
    let next : Deal Sample.config Arena := ⟨world, .allocate⟩
    Pool.live deals = {Arena.origin + 8, Arena.origin + 16} ∧
      world.pool.shelf.retiredCount = 1 ∧
        world.pool.itemCount = .ok 2 ∧
          SetStep Sample.config.geometry next.after.memory.held
            (Pool.live deals) next.request next.reply
            (Pool.live (next :: deals)) := by
  intro deals world next
  have run : Run deals world := run_history Sample.arena Sample.twoSlabs
  have abiding : Abiding deals := by decide +kernel
  have refinement := refinement_of_run run abiding
  have live :
      Pool.live deals = {Arena.origin + 8, Arena.origin + 16} := by
    decide +kernel
  refine ⟨live, by decide +kernel, ?_, ?_⟩
  · rw [refinement.2.2.2.2, live]
    rfl
  · exact refinement.1 .allocate ⟨abiding, trivial⟩

end Pool

end SlabPool
