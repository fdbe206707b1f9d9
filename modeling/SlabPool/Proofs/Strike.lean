import SlabPool.Proofs.Canonical
import SlabPool.Proofs.LiveSet

/-!
# Pools of which items were struck

A removal that is not refused takes one address out of those in use in the
active slab, or one item out of a retired slab (`Removal.struck`).  `Struck`
says what is left of a pool after several of them, and does not depend on their
order (`Struck.perm`).

The record of the active slab is told from the slots in use, so that two sound
pools of which the same was struck are the same (`eq_of_addresses_eq`).
-/

namespace SlabPool

/-! ## Items struck off retired slabs -/

namespace Slab

variable {geometry : Geometry}

/-- The slab, with one item less if the address lies inside it. -/
def discount
    (address : Nat)
    (slab : Slab geometry) :
    Slab geometry :=
  { slab with
    live := slab.live - if address ∈ slab.block.extent then 1 else 0 }

theorem discount_of_inside
    {slab : Slab geometry}
    {address : Nat}
    (inside : address ∈ slab.block.extent) :
    slab.discount address = { slab with live := slab.live - 1 } := by
  rw [discount, if_pos inside]

theorem discount_of_outside
    {slab : Slab geometry}
    {address : Nat}
    (outside : address ∉ slab.block.extent) :
    slab.discount address = slab := by
  rw [discount, if_neg outside, Nat.sub_zero]

/-- Where a slab lies does not depend on its count, so discounts commute. -/
theorem discount_discount
    (first second : Nat)
    (slab : Slab geometry) :
    (slab.discount first).discount second =
      (slab.discount second).discount first := by
  unfold discount
  congr 1
  exact Nat.sub_right_comm _ _ _

/-- The slabs without an item at the address; those without any are gone. -/
def strike
    (slabs : List (Slab geometry))
    (address : Nat) :
    List (Slab geometry) :=
  (slabs.map (discount address)).filter fun slab => 0 < slab.live

/-- A slab that is gone has no item left to strike off. -/
theorem strike_strike
    (slabs : List (Slab geometry))
    (first second : Nat) :
    strike (strike slabs first) second =
      ((slabs.map (discount first)).map (discount second)).filter
        fun slab => 0 < slab.live := by
  unfold strike
  generalize slabs.map (discount first) = discounted
  rw [List.filter_map, List.filter_map, List.filter_filter]
  congr 1
  apply List.filter_congr
  intro slab _
  have shrinks : (slab.discount second).live ≤ slab.live := Nat.sub_le _ _
  simp only [Function.comp, Bool.and_eq_left_iff_imp, decide_eq_true_iff]
  omega

instance : RightCommutative (@strike geometry) where
  right_comm slabs first second := by
    rw [strike_strike, strike_strike, List.map_map, List.map_map]
    congr 2
    funext slab
    exact slab.discount_discount first second

end Slab

/-- Of a list of entries that pass, one that no longer does is left out. -/
theorem filter_set_of_fails
    {α : Type}
    {test : α → Bool}
    {entries : List α}
    (passes : ∀ entry ∈ entries, test entry = true)
    {failing : α}
    (fails : test failing = false)
    (position : Nat) :
    (entries.set position failing).filter test =
      entries.eraseIdx position := by
  induction entries generalizing position with
  | nil => rfl
  | cons first rest ih =>
    have restPasses : ∀ entry ∈ rest, test entry = true := fun entry member =>
      passes entry (List.mem_cons_of_mem first member)
    cases position with
    | zero =>
      rw [List.set_cons_zero, List.filter_cons_of_neg (by rw [fails]; decide),
        List.filter_eq_self.2 restPasses, List.eraseIdx_cons_zero]
    | succ position =>
      rw [List.set_cons_succ,
        List.filter_cons_of_pos (passes first List.mem_cons_self),
        ih restPasses, List.eraseIdx_cons_succ]

namespace Shelf.Orderly

variable {geometry : Geometry} {shelf : Shelf geometry}
variable {position address : Nat} {slab : Slab geometry}

/-- The retired slab that covers the address is the one that loses an item. -/
theorem map_discount
    (orderly : shelf.Orderly)
    (found : shelf.retired[position]? = some slab)
    (inside : address ∈ slab.block.extent) :
    shelf.retired.map (Slab.discount address) =
      shelf.retired.set position { slab with live := slab.live - 1 } := by
  apply List.ext_getElem?
  intro index
  rw [List.getElem?_map, List.getElem?_set]
  by_cases same : position = index
  · subst same
    rw [if_pos rfl, if_pos (List.getElem?_eq_some_iff.1 found).1, found,
      Option.map_some, Slab.discount_of_inside inside]
  · rw [if_neg same]
    cases listed : shelf.retired[index]? with
    | none => rfl
    | some other =>
      have outside := orderly.outside_of_ne found listed same inside
      rw [Option.map_some, Slab.discount_of_outside outside]

theorem positive
    (orderly : shelf.Orderly) :
    ∀ slab ∈ shelf.retired, decide (0 < slab.live) = true :=
  fun slab member => decide_eq_true (orderly.counted slab member).1

/-- One of several items is struck off. -/
theorem strike_of_several
    (orderly : shelf.Orderly)
    (found : shelf.retired[position]? = some slab)
    (inside : address ∈ slab.block.extent)
    (several : 1 < slab.live) :
    Slab.strike shelf.retired address =
      shelf.retired.set position { slab with live := slab.live - 1 } := by
  rw [Slab.strike, orderly.map_discount found inside, List.filter_eq_self]
  intro other member
  rcases List.mem_or_eq_of_mem_set member with earlier | rfl
  · exact orderly.positive other earlier
  · exact decide_eq_true (Nat.sub_pos_of_lt several)

/-- With its last item a slab goes. -/
theorem strike_of_last
    (orderly : shelf.Orderly)
    (found : shelf.retired[position]? = some slab)
    (inside : address ∈ slab.block.extent)
    (last : slab.live = 1) :
    Slab.strike shelf.retired address = shelf.retired.eraseIdx position := by
  rw [Slab.strike, orderly.map_discount found inside]
  apply filter_set_of_fails orderly.positive
  rw [last]
  rfl

/-- An address in the active slab is in no retired one. -/
theorem strike_of_active
    (orderly : shelf.Orderly)
    {active : Slab geometry}
    (serving : shelf.active = some active)
    (inside : address ∈ active.block.extent) :
    Slab.strike shelf.retired address = shelf.retired := by
  have kept :
      shelf.retired.map (Slab.discount address) = shelf.retired.map id :=
    List.map_congr_left fun slab member =>
      Slab.discount_of_outside
        (orderly.outside_of_active serving member inside)
  rw [Slab.strike, kept, List.map_id, List.filter_eq_self]
  exact orderly.positive

end Shelf.Orderly

namespace Pool

variable {config : Config}

/-! ## Pools of which items were struck -/

/-- The pool, but for the items at these addresses; its slabs stay where they are. -/
structure Struck
    (addresses : List Nat)
    (before after : Pool config) :
    Prop where
  used : after.addresses = before.addresses \ addresses.toFinset
  retired : after.shelf.retired = addresses.foldl Slab.strike before.shelf.retired
  seat :
    after.shelf.active.map Slab.block = before.shelf.active.map Slab.block
  room : after.shelf.room = before.shelf.room
  hint : after.hint = before.hint

namespace Struck

variable {before middle after : Pool config} {addresses others : List Nat}

theorem refl (pool : Pool config) : Struck [] pool pool :=
  ⟨by simp, rfl, rfl, rfl, rfl⟩

theorem single
    {address : Nat}
    (used : after.addresses = before.addresses.erase address)
    (retired : after.shelf.retired = Slab.strike before.shelf.retired address)
    (seat :
      after.shelf.active.map Slab.block = before.shelf.active.map Slab.block)
    (room : after.shelf.room = before.shelf.room)
    (hint : after.hint = before.hint) :
    Struck [address] before after where
  used := by
    rw [used, Finset.erase_eq]
    rfl
  retired := retired
  seat := seat
  room := room
  hint := hint

theorem cons
    {address : Nat}
    (first : Struck [address] before middle)
    (rest : Struck addresses middle after) :
    Struck (address :: addresses) before after where
  used := by
    rw [rest.used, first.used, sdiff_sdiff, List.toFinset_cons,
      List.toFinset_cons, List.toFinset_nil, insert_empty_eq,
      Finset.insert_eq]
    rfl
  retired := by
    rw [rest.retired, first.retired]
    rfl
  seat := rest.seat.trans first.seat
  room := rest.room.trans first.room
  hint := rest.hint.trans first.hint

/-- The order in which the items were struck does not matter. -/
theorem perm
    (struck : Struck addresses before after)
    (reordered : addresses.Perm others) :
    Struck others before after where
  used := by rw [struck.used, List.toFinset_eq_of_perm _ _ reordered]
  retired := by rw [struck.retired, reordered.foldl_eq]
  seat := struck.seat
  room := struck.room
  hint := struck.hint

end Struck

/-! ## What is left is told from what was struck -/

section Agreement

variable {left right : Pool config}

/-- The slots in use are told from their addresses. -/
theorem inUse_eq_of_addresses_eq
    (leftSound : left.Sound)
    (rightSound : right.Sound)
    (seat :
      left.shelf.active.map Slab.block = right.shelf.active.map Slab.block)
    (same : left.addresses = right.addresses) :
    left.inUse = right.inUse := by
  cases leftServing : left.shelf.active with
  | none =>
    rw [leftServing, Option.map_none, eq_comm, Option.map_eq_none_iff] at seat
    rw [inUse, inUse, (leftSound.idle_of_inactive leftServing).1,
      (rightSound.idle_of_inactive seat).1]
    rfl
  | some active =>
    rw [leftServing, Option.map_some, eq_comm, Option.map_eq_some_iff] at seat
    rcases seat with ⟨other, rightServing, block⟩
    have places : other.slotAt = active.slotAt := by
      rw [Slab.eq_of_block_eq block]
      rfl
    rw [addresses_of_active leftServing, addresses_of_active rightServing,
      places] at same
    exact Finset.image_injective active.slotAt_injective same

/-- The active slab is told from its block and its mark. -/
theorem active_eq_of_highWater_eq
    (seat :
      left.shelf.active.map Slab.block = right.shelf.active.map Slab.block)
    (highWater : left.highWater = right.highWater) :
    left.shelf.active = right.shelf.active := by
  cases leftServing : left.shelf.active with
  | none =>
    rw [leftServing, Option.map_none, eq_comm, Option.map_eq_none_iff] at seat
    exact seat.symm
  | some active =>
    rw [leftServing, Option.map_some, eq_comm, Option.map_eq_some_iff] at seat
    rcases seat with ⟨other, rightServing, block⟩
    rw [highWater_of_active leftServing, highWater_of_active rightServing]
      at highWater
    rw [rightServing, Slab.eq_of_block_eq block, ← highWater]

/-- The capacity of the active slab is told from its block. -/
theorem activeCapacity_eq_of_block_eq
    (seat :
      left.shelf.active.map Slab.block = right.shelf.active.map Slab.block) :
    left.activeCapacity = right.activeCapacity := by
  cases leftServing : left.shelf.active with
  | none =>
    rw [leftServing, Option.map_none, eq_comm, Option.map_eq_none_iff] at seat
    rw [activeCapacity, activeCapacity, leftServing, seat]
  | some active =>
    rw [leftServing, Option.map_some, eq_comm, Option.map_eq_some_iff] at seat
    rcases seat with ⟨other, rightServing, block⟩
    rw [activeCapacity_of_active leftServing,
      activeCapacity_of_active rightServing, Slab.eq_of_block_eq block]

/--
Sound pools with the same slots in use and the same retired slabs are the same,
but for the room that was granted to record vacancies.
-/
theorem eq_of_addresses_eq
    (leftSound : left.Sound)
    (rightSound : right.Sound)
    (seat :
      left.shelf.active.map Slab.block = right.shelf.active.map Slab.block)
    (used : left.addresses = right.addresses)
    (retired : left.shelf.retired = right.shelf.retired)
    (room : left.shelf.room = right.shelf.room)
    (hint : left.hint = right.hint) :
    left =
      { right with
        vacancies := { right.vacancies with room := left.vacancies.room } } := by
  have settled := leftSound.settled
  rw [activeCapacity_eq_of_block_eq seat] at settled
  rcases settled.eq_of_inUse_eq rightSound.settled
      (inUse_eq_of_addresses_eq leftSound rightSound seat used) with
    ⟨highWater, vacancies⟩
  have active := active_eq_of_highWater_eq seat highWater
  have shelf : left.shelf = right.shelf := by
    rcases left with ⟨⟨_, _, _⟩, _, _⟩
    cases active
    cases retired
    cases room
    rfl
  rw [← vacancies, ← hint, ← shelf]

end Agreement

/-! ## A removal strikes one item -/

variable {σ : Type}

/-- A removal that is not refused strikes the item at the address. -/
theorem Removal.struck
    {pool left : Pool config}
    {address : Nat}
    {memory after : Memory σ}
    (sound : pool.Sound)
    (removal : pool.Removal address memory ⟨.ok (), left, after⟩) :
    Struck [address] pool left := by
  have orderly := sound.orderly
  cases removal with
  | @released active index mark vacancies _ serving addressed release
      undisturbed =>
    subst addressed
    have used := release.mem_inUse sound serving
    rw [inUse_of_active serving] at used
    have starts : active.Starts (active.slotAt index) :=
      ⟨index, (sound.settled_active serving).lt_of_mem_inUse used, rfl⟩
    refine .single (release.addresses_eq serving) ?_ ?_ rfl rfl
    · exact (orderly.strike_of_active serving starts.mem_extent).symm
    · rw [serving]
      rfl
  | counted found starts several =>
    have absent :=
      sound.not_mem_addresses_of_retired (List.mem_of_getElem? found)
        starts.mem_extent
    refine .single ?_ ?_ rfl rfl rfl
    · exact (Finset.erase_eq_of_notMem absent).symm
    · exact (orderly.strike_of_several found starts.mem_extent several).symm
  | emptied found starts last =>
    have absent :=
      sound.not_mem_addresses_of_retired (List.mem_of_getElem? found)
        starts.mem_extent
    refine .single ?_ ?_ rfl rfl rfl
    · exact (Finset.erase_eq_of_notMem absent).symm
    · exact (orderly.strike_of_last found starts.mem_extent last).symm

end Pool

end SlabPool
