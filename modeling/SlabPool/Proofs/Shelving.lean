import SlabPool.Proofs.Ledger
import SlabPool.Proofs.Run
import SlabPool.Proofs.Scan

/-!
# Lookup on a shelf that is worked on

A shelf can be worked on without a pool: slabs are activated with whatever count
of items is claimed for the slab before, and items leave retired slabs at
whatever position, so that some operations break off.  `World.operate` carries
out one operation, broken off or not.

Every operation keeps the shelf orderly (`World.Balanced.operate`), as long as
new slabs are granted apart from the held ones.  `lookup_of_operations` says
what lookup then is, after any operations and for every address.
-/

namespace SlabPool

/-! ## A new slab -/

/-- A slab with slots whose block was granted is sited. -/
theorem Slab.Acquisition.sited
    {σ : Type}
    [Provider σ]
    [SeparatingProvider σ]
    {geometry : Geometry}
    {capacity : Nat}
    (capacity_pos : 0 < capacity)
    {memory after : Memory σ}
    {slab : Slab geometry}
    (acquisition : Acquisition geometry capacity memory (.ok slab) after) :
    slab.Sited ∧ Granted σ memory.held slab.block := by
  cases acquisition with
  | @granted layout base _ size align granted =>
    have placed := (Memory.acquire_granted granted).1
    rw [size, align] at placed
    refine ⟨⟨capacity_pos, ?_, placed.finish_lt⟩, placed⟩
    show capacity ≤ geometry.limit
    rw [geometry.le_limit_iff, ← size]
    exact
      Nat.le_trans (le_roundUp layout.align_pos layout.size) layout.padded_le

namespace Shelf

variable {geometry : Geometry}

namespace Orderly

variable {shelf : Shelf geometry} {slab : Slab geometry}

/-- A slab apart from the retired ones can take the place of the active one. -/
theorem withActive
    (orderly : shelf.Orderly)
    (sited : slab.Sited)
    (apart : ∀ other ∈ shelf.slabs, Block.Apart slab.block other.block) :
    ({ shelf with active := some slab } : Shelf geometry).Orderly where
  sited other member := by
    rcases mem_slabs.1 member with same | retired
    · cases same
      exact sited
    · exact orderly.sited_retired retired
  apart := by
    rw [slabs_of_active rfl, List.map_cons, List.pairwise_cons]
    constructor
    · intro block member
      rcases List.mem_map.1 member with ⟨other, retired, rfl⟩
      exact apart other (mem_slabs.2 (Or.inr retired))
    · exact
        orderly.apart.sublist
          ((List.sublist_append_right shelf.active.toList _).map _)
  ascending := orderly.ascending
  counted := orderly.counted
  led absent := by cases absent

/-- The active slab can retire with items when another takes its place. -/
theorem withRetirement
    (orderly : shelf.Orderly)
    {previous : Slab geometry}
    (serving : shelf.active = some previous)
    (sited : slab.Sited)
    (apart : ∀ other ∈ shelf.slabs, Block.Apart slab.block other.block)
    {live : Nat}
    (positive : 0 < live)
    (bounded : live ≤ previous.capacity) :
    (⟨some slab,
      shelf.retired.insertIdx
        (shelf.leading fun slab => decide (slab.base < previous.base))
        { previous with live },
      shelf.room⟩ : Shelf geometry).Orderly := by
  have inside := shelf.leading_le fun slab => decide (slab.base < previous.base)
  refine ⟨?_, ?_, ?_, ?_, fun absent => by cases absent⟩
  · intro other member
    rcases mem_slabs.1 member with same | retired
    · cases same
      exact sited
    · rcases List.eq_or_mem_of_mem_insertIdx retired with rfl | earlier
      · exact (orderly.sited_active serving).withLive live
      · exact orderly.sited_retired earlier
  · rw [slabs_of_active rfl, List.map_cons, List.pairwise_cons]
    constructor
    · intro block member
      rcases List.mem_map.1 member with ⟨other, retired, rfl⟩
      rcases List.eq_or_mem_of_mem_insertIdx retired with rfl | earlier
      · exact apart previous (mem_slabs.2 (Or.inl serving))
      · exact apart other (mem_slabs.2 (Or.inr earlier))
    · have before := orderly.apart
      rw [slabs_of_active serving] at before
      have moved :=
        (List.perm_insertIdx { previous with live } _ inside).map Slab.block
      exact
        (moved.pairwise_iff fun related => related.symm).2 before
  · exact
      orderly.ascending_insertIdx serving fun index other found =>
        orderly.lt_leading_base_iff found
  · intro other member
    rcases List.eq_or_mem_of_mem_insertIdx member with rfl | earlier
    · exact ⟨positive, bounded⟩
    · exact orderly.counted other earlier

theorem activate
    {σ : Type}
    (orderly : shelf.Orderly)
    (sited : slab.Sited)
    (apart : ∀ other ∈ shelf.slabs, Block.Apart slab.block other.block)
    (previousItems : Nat)
    (memory : Memory σ) :
    (shelf.activate slab previousItems memory).2.1.Orderly := by
  have replaced := orderly.withActive sited apart
  unfold Shelf.activate
  cases serving : shelf.active with
  | none => exact replaced
  | some previous =>
    dsimp only
    split
    case isTrue empty => exact replaced
    case isFalse nonempty =>
      by_cases bounded : previousItems ≤ previous.capacity
      · rw [Slab.withLive, if_pos bounded]
        exact
          orderly.withRetirement serving sited apart
            (Nat.pos_of_ne_zero nonempty) bounded
      · rw [Slab.withLive, if_neg bounded]
        exact replaced

theorem removeRetiredItem
    {σ : Type}
    (orderly : shelf.Orderly)
    (position : Nat)
    (memory : Memory σ) :
    (shelf.removeRetiredItem position memory).2.1.Orderly := by
  unfold Shelf.removeRetiredItem
  cases found : shelf.retired[position]? with
  | none => exact orderly
  | some slab =>
    have before := orderly.counted slab (List.mem_of_getElem? found)
    dsimp only
    rw [Slab.decrement_eq before.1]
    dsimp only
    split
    case isTrue several =>
      apply orderly.withRetired
      · rw [Slab.map_block_set found]
      · intro other member
        rcases List.mem_or_eq_of_mem_set member with earlier | rfl
        · exact orderly.counted other earlier
        · exact ⟨several, Nat.le_trans (Nat.sub_le _ _) before.2⟩
    case isFalse last =>
      apply orderly.withRetired
      · exact (List.eraseIdx_sublist _ _).map _
      · exact fun other member =>
          orderly.counted other (List.mem_of_mem_eraseIdx member)

theorem releaseRetired
    {σ : Type}
    (orderly : shelf.Orderly)
    (memory : Memory σ) :
    (shelf.releaseRetired memory).1.Orderly :=
  orderly.withRetired (List.nil_sublist _) nofun

end Orderly

theorem orderly_empty : (empty : Shelf geometry).Orderly where
  sited _ member := by cases member
  apart := List.Pairwise.nil
  ascending := List.Pairwise.nil
  counted _ member := by cases member
  led _ := rfl

/-! ## Operations -/

/-- A shelf with the memory its slabs come from. -/
structure World (geometry : Geometry) (σ : Type) where
  /-- The shelf. -/
  shelf : Shelf geometry
  /-- The memory. -/
  memory : Memory σ

/-- An operation on a shelf, or a change of the source of its slabs. -/
inductive Operation (σ : Type) where
  /-- From now on slabs come from this provider. -/
  | supply (provider : σ)
  /-- Make room for one more retired slab. -/
  | makeRoom
  /--
  Acquire a slab, set its count, and let it serve allocations; the slab before
  it is said to have `previousItems` items.
  -/
  | activate
      (capacity : Nat)
      (capacity_pos : 0 < capacity)
      (live previousItems : Nat)
  /-- Set the count of the active slab. -/
  | mark (live : Nat)
  /-- Let an item leave the retired slab at this position. -/
  | removeRetiredItem (position : Nat)
  | releaseRetired
  | releaseAll
  deriving Repr

namespace World

variable {σ : Type} [Provider σ]

/-- The world after a new slab was acquired and activated, if it was. -/
def activate
    (world : World geometry σ)
    (capacity live previousItems : Nat) :
    World geometry σ :=
  match Slab.acquire geometry capacity world.memory with
  | (.error _, memory) => { world with memory }
  | (.ok fresh, memory) =>
    match fresh.withLive live with
    | .error _ => { world with memory := fresh.release memory }
    | .ok slab =>
      let (_, shelf, memory) :=
        world.shelf.activate slab previousItems memory
      ⟨shelf, memory⟩

/-- The world after an operation, which may have broken off. -/
def operate (world : World geometry σ) : Operation σ → World geometry σ
  | .supply provider =>
    { world with memory := { world.memory with provider } }
  | .makeRoom =>
    match world.shelf.reserveRetirement world.memory with
    | (.error _, memory) => { world with memory }
    | (.ok shelf, memory) => ⟨shelf, memory⟩
  | .activate capacity _ live previousItems =>
    world.activate capacity live previousItems
  | .mark live =>
    match world.shelf.active with
    | none => world
    | some active =>
      match active.withLive live with
      | .error _ => world
      | .ok active =>
        { world with shelf := { world.shelf with active := some active } }
  | .removeRetiredItem position =>
    let (_, shelf, memory) :=
      world.shelf.removeRetiredItem position world.memory
    ⟨shelf, memory⟩
  | .releaseRetired =>
    let (shelf, memory) := world.shelf.releaseRetired world.memory
    ⟨shelf, memory⟩
  | .releaseAll =>
    let (shelf, memory) := world.shelf.releaseAll world.memory
    ⟨shelf, memory⟩

/-- The world of a new shelf after these operations, one after another. -/
def operated
    (provider : σ)
    (operations : List (Operation σ)) :
    World geometry σ :=
  operations.foldl operate ⟨empty, Memory.fresh provider⟩

/-- The shelf is orderly, and its slabs account for the held blocks. -/
structure Balanced (world : World geometry σ) : Prop where
  orderly : world.shelf.Orderly
  accounted : world.memory.Accounted (world.shelf.slabs.map Slab.block)

namespace Balanced

variable {world : World geometry σ}

theorem activate
    [SeparatingProvider σ]
    (balanced : world.Balanced)
    {capacity : Nat}
    (capacity_pos : 0 < capacity)
    (live previousItems : Nat) :
    (world.activate capacity live previousItems).Balanced := by
  have acquisition :=
    @Slab.acquire_spec σ _ geometry capacity world.memory
  have accounted := acquisition.accounted balanced.accounted
  unfold World.activate
  generalize Slab.acquire geometry capacity world.memory = answer
    at acquisition accounted ⊢
  rcases answer with ⟨fault | fresh, memory⟩
  · exact ⟨balanced.orderly, accounted⟩
  · rcases acquisition.sited capacity_pos with ⟨sited, granted⟩
    have apart :
        ∀ other ∈ world.shelf.slabs,
          Block.Apart fresh.block other.block := by
      intro other member
      apply granted.apart
      exact
        balanced.accounted.held.mem_iff.2 (List.mem_map_of_mem member)
    dsimp only
    cases made : fresh.withLive live with
    | error breach =>
      exact ⟨balanced.orderly, Slab.accounted_release accounted⟩
    | ok slab =>
      obtain rfl := Slab.eq_of_withLive made
      exact
        ⟨balanced.orderly.activate (sited.withLive live) apart
            previousItems memory,
          world.shelf.accounted_activate previousItems accounted⟩

/-- Every operation, broken off or not, leaves the shelf balanced. -/
theorem operate
    [SeparatingProvider σ]
    (balanced : world.Balanced)
    (operation : Operation σ) :
    (world.operate operation).Balanced := by
  rcases balanced with ⟨orderly, accounted⟩
  cases operation with
  | supply provider => exact ⟨orderly, accounted.held, accounted.ledger⟩
  | makeRoom =>
    have asked :=
      accounted.asked (world.shelf.asked_reserveRetirement world.memory)
    unfold World.operate
    cases made : world.shelf.reserveRetirement world.memory with
    | mk answer memory =>
      rw [made] at asked
      cases answer with
      | error fault => exact ⟨orderly, asked⟩
      | ok shelf =>
        rcases eq_of_reserveRetirement made with ⟨room, rfl⟩
        exact ⟨orderly.withRoom room, asked⟩
  | activate capacity capacity_pos live previousItems =>
    exact Balanced.activate ⟨orderly, accounted⟩ capacity_pos live
      previousItems
  | mark live =>
    unfold World.operate
    cases serving : world.shelf.active with
    | none => exact ⟨orderly, accounted⟩
    | some active =>
      dsimp only
      cases made : active.withLive live with
      | error breach => exact ⟨orderly, accounted⟩
      | ok marked =>
        obtain rfl := Slab.eq_of_withLive made
        rw [slabs_of_active serving] at accounted
        exact ⟨orderly.withMark serving live, accounted⟩
  | removeRetiredItem position =>
    exact
      ⟨orderly.removeRetiredItem position world.memory,
        world.shelf.accounted_removeRetiredItem position accounted⟩
  | releaseRetired =>
    refine ⟨orderly.releaseRetired world.memory, ?_⟩
    have left := world.shelf.accounted_releaseRetired accounted
    rw [← List.append_nil (world.shelf.active.toList)] at left
    exact left
  | releaseAll =>
    have left := world.shelf.accounted_releaseAll accounted
    have empty := (world.shelf.releaseAll_spec world.memory accounted.held).1
    refine ⟨?_, ?_⟩
    · show (world.shelf.releaseAll world.memory).1.Orderly
      rw [empty]
      exact orderly_empty
    · show Memory.Accounted _
        ((world.shelf.releaseAll world.memory).1.slabs.map Slab.block)
      rw [empty]
      exact left

end Balanced

/-- After any operations the shelf is balanced. -/
theorem balanced_operated
    [SeparatingProvider σ]
    (provider : σ)
    (operations : List (Operation σ)) :
    (operated provider operations : World geometry σ).Balanced := by
  have start : World.Balanced ⟨(empty : Shelf geometry), .fresh provider⟩ :=
    ⟨orderly_empty, .fresh provider⟩
  unfold operated
  generalize World.mk (empty : Shelf geometry) (.fresh provider) = world
    at start ⊢
  induction operations generalizing world with
  | nil => exact start
  | cons operation later ih => exact ih _ (start.operate operation)

end World

/-! ## Lookup -/

/--
After any operations on a shelf, broken off or not, the retired slabs stand in
the order of their addresses, no two slabs share an address, each retired slab
has items but no more than slots, and there are none without an active slab.
Lookup gives the same answer as a look at every slot: for every address, the
slot of the active slab or the retired slab that starts there, if there is one.
-/
theorem lookup_of_operations
    {σ : Type}
    [Provider σ]
    [SeparatingProvider σ]
    (provider : σ)
    (operations : List (Operation σ)) :
    let shelf := (World.operated provider operations : World geometry σ).shelf
    (shelf.retired.map Slab.base).Pairwise (· < ·) ∧
    (shelf.slabs.map Slab.block).Pairwise Block.Apart ∧
    (∀ slab ∈ shelf.retired, 1 ≤ slab.live ∧ slab.live ≤ slab.capacity) ∧
    (shelf.retired ≠ [] → ∃ active, shelf.active = some active) ∧
    ∀ address,
      shelf.locate address = shelf.scan address ∧
      (∀ index,
        shelf.locate address = some (.active index) ↔
          ∃ active, shelf.active = some active ∧ index < active.capacity ∧
            address = active.base + index * geometry.stride) ∧
      (∀ position,
        shelf.locate address = some (.retired position) ↔
          ∃ slab, shelf.retired[position]? = some slab ∧
            ∃ index < slab.capacity,
              address = slab.base + index * geometry.stride) ∧
      (shelf.locate address = none ↔
        ∀ slab ∈ shelf.slabs, ∀ index < slab.capacity,
          address ≠ slab.base + index * geometry.stride) := by
  intro shelf
  have orderly : shelf.Orderly :=
    (World.balanced_operated provider operations).orderly
  refine ⟨orderly.ascending, orderly.apart, orderly.counted, ?_, ?_⟩
  · intro some
    rw [← Option.isSome_iff_exists, Option.isSome_iff_ne_none]
    exact fun inactive => some (orderly.led inactive)
  · intro address
    refine ⟨orderly.locate_eq_scan address, ?_, ?_, ?_⟩
    · exact fun index => orderly.locate_eq_active_iff
    · exact fun position => orderly.locate_eq_retired_iff
    · rw [orderly.locate_eq_none_iff]
      refine forall₂_congr fun slab member => ?_
      exact
        ⟨fun nowhere index inside same => nowhere ⟨index, inside, same⟩,
          fun nowhere ⟨index, inside, same⟩ => nowhere index inside same⟩

/-- Slots of eight bytes. -/
def Sample.eightBytes : Geometry :=
  SlabPool.Sample.config.geometry

/--
Four slabs out of the order of their addresses; an item leaves at a position
without a slab, and the third slab is said to have more items than slots.
-/
def Sample.fourSlabs : List (Operation Arena) :=
  [.activate 2 Nat.two_pos 2 0, .makeRoom, .activate 2 Nat.two_pos 0 2,
    .makeRoom, .activate 2 Nat.two_pos 0 1, .removeRetiredItem 7,
    .activate 1 Nat.one_pos 0 9, .removeRetiredItem 1]

/-- An arena that places four blocks where they are listed. -/
def Sample.scatteredArena : Arena :=
  { length := 0x1000, placement := .listed [64, 0, 32, 96] }

theorem lookup_of_fourSlabs :
    let shelf : Shelf Sample.eightBytes :=
      (World.operated Sample.scatteredArena Sample.fourSlabs).shelf
    shelf.active = some ⟨Arena.origin + 96, 1, 0⟩ ∧
      shelf.retired =
        [⟨Arena.origin, 2, 1⟩, ⟨Arena.origin + 64, 2, 1⟩] ∧
      shelf.locate (Arena.origin + 72) = some (.retired 1) ∧
      (∀ address, shelf.locate address = shelf.scan address) := by
  intro shelf
  have lookup :=
    @lookup_of_operations Sample.eightBytes Arena _ _
      Sample.scatteredArena Sample.fourSlabs
  refine ⟨by decide +kernel, by decide +kernel, ?_, ?_⟩
  · exact
      ((lookup.2.2.2.2 _).2.2.1 1).2
        ⟨⟨Arena.origin + 64, 2, 1⟩, by decide +kernel, 1, by decide,
          by decide⟩
  · exact fun address => (lookup.2.2.2.2 address).1

end Shelf

end SlabPool
