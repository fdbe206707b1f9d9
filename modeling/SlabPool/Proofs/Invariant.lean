import Mathlib.Algebra.Order.BigOperators.Group.List
import Mathlib.Algebra.Order.Ring.Nat
import SlabPool.Pool.Basic
import SlabPool.Proofs.Lookup
import SlabPool.Proofs.Occupancy

/-!
# The invariant of a pool

A pool is `Sound` if its shelf is orderly, the record of its vacancies is
settled at the high-water mark, the retired slabs fit into the granted storage,
and the hint belongs to the active slab.

In a sound pool no count leaves the range of words, so every count that the
pool reports is the exact one: `activeItems_eq`, `available_eq`,
`slabCount_eq`, `itemCount_eq` and `slotCount_eq`.
-/

namespace SlabPool

namespace Word

theorem modulus_pos : 0 < modulus := by
  decide

/-- A sum of words is exact while the total is a word. -/
theorem sum?_eq
    {terms : List Nat}
    (inRange : terms.sum < modulus) :
    sum? terms = some terms.sum := by
  have accumulate :
      ∀ (terms : List Nat) (start : Nat), start + terms.sum < modulus →
        terms.foldlM add? start = some (start + terms.sum) := by
    intro terms
    induction terms with
    | nil => intro start _; rfl
    | cons term rest ih =>
      intro start bounded
      rw [List.sum_cons, ← Nat.add_assoc] at bounded
      have first : add? start term = some (start + term) :=
        add?_eq_some_iff.2 ⟨by omega, rfl⟩
      rw [List.foldlM_cons, first, Option.bind_eq_bind, Option.bind_some,
        ih (start + term) bounded, List.sum_cons, Nat.add_assoc]
  have total := accumulate terms 0 (by omega)
  rwa [Nat.zero_add] at total

end Word

namespace Config

variable (config : Config)

theorem firstCapacity_pos : 0 < config.firstCapacity :=
  Nat.lt_min.2 ⟨config.minimum_pos, config.geometry.limit_pos⟩

theorem firstCapacity_le_limit : config.firstCapacity ≤ config.limit :=
  Nat.min_le_right _ _

theorem firstCapacity_le_capacityAfter (current : Nat) :
    config.firstCapacity ≤ config.capacityAfter current := by
  unfold firstCapacity capacityAfter nextCapacity
  omega

theorem capacityAfter_le_limit (current : Nat) :
    config.capacityAfter current ≤ config.limit :=
  Nat.min_le_right _ _

end Config

/-! ## Slabs among the addresses that are words -/

namespace Shelf.Orderly

variable {geometry : Geometry} {shelf : Shelf geometry}

/-- All slabs together have fewer slots than there are words. -/
theorem sum_capacity_lt
    (orderly : shelf.Orderly) :
    (shelf.slabs.map Slab.capacity).sum < Word.modulus := by
  have below :
      ∀ block ∈ shelf.slabs.map Slab.block,
        block.finish ≤ Word.greatest := by
    intro block member
    rcases List.mem_map.1 member with ⟨slab, slabMember, rfl⟩
    exact Nat.le_sub_one_of_lt (orderly.sited slab slabMember).finish_lt
  calc
    (shelf.slabs.map Slab.capacity).sum
        ≤ (shelf.slabs.map Slab.bytes).sum :=
      List.sum_le_sum fun slab _ => slab.capacity_le_bytes
    _ = ((shelf.slabs.map Slab.block).map Block.size).sum := by
      rw [List.map_map]
      rfl
    _ ≤ Word.greatest := Block.sum_size_le orderly.apart below
    _ < Word.modulus := by decide

theorem length_slabs_lt
    (orderly : shelf.Orderly) :
    shelf.slabs.length < Word.modulus := by
  have nonempty :
      ∀ capacity ∈ shelf.slabs.map Slab.capacity, 1 ≤ capacity := by
    intro capacity member
    rcases List.mem_map.1 member with ⟨slab, slabMember, rfl⟩
    exact (orderly.sited slab slabMember).capacity_pos
  have counted := List.length_le_sum_of_one_le _ nonempty
  rw [List.length_map] at counted
  exact Nat.lt_of_le_of_lt counted orderly.sum_capacity_lt

theorem slabCount_eq
    (orderly : shelf.Orderly) :
    shelf.slabCount = shelf.slabs.length := by
  have bounded := orderly.length_slabs_lt
  have counted :
      shelf.retired.length + (if shelf.active.isSome then 1 else 0) =
        shelf.slabs.length := by
    cases serving : shelf.active <;> simp [slabs, serving, Nat.add_comm]
  rw [← counted] at bounded ⊢
  exact Word.add_eq bounded

theorem slotCount_eq
    (orderly : shelf.Orderly) :
    shelf.slotCount = .ok (shelf.slabs.map Slab.capacity).sum := by
  rw [slotCount, Word.sum?_eq orderly.sum_capacity_lt]

/-- Items of retired slabs take slots, of which there are enough words. -/
theorem sum_live_add_le
    (orderly : shelf.Orderly)
    {active : Slab geometry}
    (serving : shelf.active = some active) :
    (shelf.retired.map Slab.live).sum + active.capacity < Word.modulus := by
  have total := orderly.sum_capacity_lt
  rw [slabs_of_active serving, List.map_cons, List.sum_cons] at total
  have occupied :
      (shelf.retired.map Slab.live).sum ≤
        (shelf.retired.map Slab.capacity).sum :=
    List.sum_le_sum fun slab member => (orderly.counted slab member).2
  omega

theorem sum_live_lt
    (orderly : shelf.Orderly) :
    (shelf.retired.map Slab.live).sum < Word.modulus := by
  cases serving : shelf.active with
  | none =>
    rw [orderly.led serving]
    exact Word.modulus_pos
  | some active =>
    have total := orderly.sum_live_add_le serving
    omega

theorem retiredItems_eq
    (orderly : shelf.Orderly) :
    shelf.retiredItems = .ok (shelf.retired.map Slab.live).sum := by
  rw [retiredItems, Word.sum?_eq orderly.sum_live_lt]

end Shelf.Orderly

namespace Pool

variable {config : Config} {pool : Pool config}

/-- The indices of the slots of the active slab that are in use. -/
def inUse (pool : Pool config) : Finset Nat :=
  pool.vacancies.inUse pool.highWater

/-- The hint that belongs to the active slab. -/
def dueHint (pool : Pool config) : Nat :=
  match pool.shelf.active with
  | none => config.firstCapacity
  | some active => config.capacityAfter active.capacity

/-- What holds of a pool before and after every operation. -/
structure Sound (pool : Pool config) : Prop where
  orderly : pool.shelf.Orderly
  settled : pool.vacancies.Settled pool.activeCapacity pool.highWater
  fits : pool.shelf.retired.length ≤ pool.shelf.room
  hinted : pool.hint = pool.dueHint

theorem activeCapacity_of_active
    {active : Slab config.geometry}
    (serving : pool.shelf.active = some active) :
    pool.activeCapacity = active.capacity := by
  rw [activeCapacity, serving]

theorem highWater_of_active
    {active : Slab config.geometry}
    (serving : pool.shelf.active = some active) :
    pool.highWater = active.live := by
  rw [highWater, serving]

theorem inUse_of_active
    {active : Slab config.geometry}
    (serving : pool.shelf.active = some active) :
    pool.inUse = pool.vacancies.inUse active.live := by
  rw [inUse, highWater_of_active serving]

theorem sound_idle : (idle : Pool config).Sound where
  orderly :=
    { sited := by simp [idle, Shelf.empty, Shelf.slabs]
      apart := by simp [idle, Shelf.empty, Shelf.slabs]
      ascending := List.Pairwise.nil
      counted := by simp [idle, Shelf.empty]
      led := fun _ => rfl }
  settled := Vacancies.settled_empty
  fits := Nat.le_refl 0
  hinted := rfl

namespace Sound

theorem settled_active
    (sound : pool.Sound)
    {active : Slab config.geometry}
    (serving : pool.shelf.active = some active) :
    pool.vacancies.Settled active.capacity active.live := by
  have settled := sound.settled
  rwa [activeCapacity_of_active serving, highWater_of_active serving] at settled

/-- Without an active slab nothing is recorded. -/
theorem idle_of_inactive
    (sound : pool.Sound)
    (inactive : pool.shelf.active = none) :
    pool.highWater = 0 ∧ pool.vacancies.stack = [] := by
  have unmarked : pool.highWater = 0 := by
    rw [highWater, inactive]
  refine ⟨unmarked, ?_⟩
  rw [List.eq_nil_iff_forall_not_mem]
  intro index vacant
  have below := sound.settled.buried index vacant
  omega

theorem firstCapacity_le_hint
    (sound : pool.Sound) :
    config.firstCapacity ≤ pool.hint := by
  rw [sound.hinted, dueHint]
  split
  · exact Nat.le_refl _
  · exact config.firstCapacity_le_capacityAfter _

theorem hint_pos (sound : pool.Sound) : 0 < pool.hint :=
  Nat.lt_of_lt_of_le config.firstCapacity_pos sound.firstCapacity_le_hint

theorem hint_le_limit (sound : pool.Sound) : pool.hint ≤ config.limit := by
  rw [sound.hinted, dueHint]
  split
  · exact config.firstCapacity_le_limit
  · exact config.capacityAfter_le_limit _

theorem activeCapacity_le_limit
    (sound : pool.Sound) :
    pool.activeCapacity ≤ config.limit := by
  cases serving : pool.shelf.active with
  | none =>
    rw [activeCapacity, serving]
    exact Nat.zero_le _
  | some active =>
    rw [activeCapacity_of_active serving]
    exact (sound.orderly.sited_active serving).capacity_le

theorem activeCapacity_lt
    (sound : pool.Sound) :
    pool.activeCapacity < Word.modulus := by
  cases serving : pool.shelf.active with
  | none =>
    rw [activeCapacity, serving]
    exact Word.modulus_pos
  | some active =>
    have bounded := sound.orderly.sum_live_add_le serving
    rw [activeCapacity_of_active serving]
    omega

/-! ### Counts are exact -/

theorem card_inUse
    (sound : pool.Sound) :
    pool.inUse.card + pool.vacancies.size = pool.highWater :=
  sound.settled.card_inUse

theorem activeItems_eq
    (sound : pool.Sound) :
    pool.activeItems = pool.inUse.card := by
  have split := sound.card_inUse
  have marked := sound.settled.mark_le
  have bounded := sound.activeCapacity_lt
  rw [activeItems, Word.sub_eq (by omega) (by omega)]
  omega

/-- What a pool can still hand out is what its active slab lacks in items. -/
theorem available_eq
    (sound : pool.Sound) :
    pool.available = pool.activeCapacity - pool.inUse.card := by
  have split := sound.card_inUse
  have marked := sound.settled.mark_le
  have bounded := sound.activeCapacity_lt
  cases serving : pool.shelf.active with
  | none => simp only [available, activeCapacity, serving, Nat.zero_sub]
  | some active =>
    rw [activeCapacity_of_active serving] at bounded marked ⊢
    rw [highWater_of_active serving] at split marked
    have untouched :=
      Slab.untouched_eq (sound.orderly.sited_active serving) marked
    simp only [available, serving, untouched]
    rw [Word.add_eq (by omega)]
    omega

theorem sum_items_lt
    (sound : pool.Sound) :
    pool.inUse.card + (pool.shelf.retired.map Slab.live).sum <
      Word.modulus := by
  have split := sound.card_inUse
  have marked := sound.settled.mark_le
  cases serving : pool.shelf.active with
  | none =>
    have unused := (sound.idle_of_inactive serving).1
    have retired := sound.orderly.sum_live_lt
    omega
  | some active =>
    rw [activeCapacity_of_active serving] at marked
    have bounded := sound.orderly.sum_live_add_le serving
    omega

theorem itemCount_eq
    (sound : pool.Sound) :
    pool.itemCount =
      .ok (pool.inUse.card + (pool.shelf.retired.map Slab.live).sum) := by
  rw [itemCount, sound.orderly.retiredItems_eq, sound.activeItems_eq]
  dsimp only
  rw [Word.add?_eq_some_iff.2 ⟨sound.sum_items_lt, rfl⟩]

end Sound

end Pool

end SlabPool
