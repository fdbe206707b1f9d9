import SlabPool.Pool.Lifecycle
import SlabPool.Proofs.Removal

/-!
# Clearing and destroying a pool

A cleared pool keeps its active slab, with no slot in use; a destroyed pool has
no slab at all.  In both cases exactly the blocks of the other slabs are given
back (`Balanced.clear`, `Balanced.destroy`).  Disposal destroys the pool first
(`Balanced.held_dispose`).
-/

namespace SlabPool

variable {σ : Type}

namespace Shelf

variable {geometry : Geometry}

/-- Each slab gives its block back, and no other block goes. -/
theorem held_releaseEach
    {slabs : List (Slab geometry)}
    {memory : Memory σ}
    {rest : List Block}
    (held : memory.held.Perm (slabs.map Slab.block ++ rest)) :
    (releaseEach slabs memory).held.Perm rest := by
  induction slabs generalizing memory with
  | nil => exact held
  | cons slab slabs ih =>
    have erased := held.erase slab.block
    rw [List.map_cons, List.cons_append, List.erase_cons_head] at erased
    exact ih erased

theorem held_releaseRetired
    (shelf : Shelf geometry)
    {memory : Memory σ}
    (held : memory.held.Perm (shelf.slabs.map Slab.block)) :
    (shelf.releaseRetired memory).2.held.Perm
      (shelf.active.toList.map Slab.block) := by
  unfold releaseRetired
  dsimp only
  apply held_releaseEach
  rw [slabs, List.map_append] at held
  have swapped := held.trans List.perm_append_comm
  split <;> exact swapped

/-- The active slab is given back after the retired ones. -/
theorem releaseAll_of_active
    {shelf : Shelf geometry}
    {active : Slab geometry}
    (serving : shelf.active = some active)
    (memory : Memory σ) :
    shelf.releaseAll memory =
      (empty,
        active.release
          ((shelf.releaseRetired memory).2.note
            (.releasingActive active.capacity))) := by
  simp only [releaseAll, releaseRetired, serving]

theorem releaseAll_of_inactive
    {shelf : Shelf geometry}
    (inactive : shelf.active = none)
    (memory : Memory σ) :
    shelf.releaseAll memory = (empty, (shelf.releaseRetired memory).2) := by
  simp only [releaseAll, releaseRetired, inactive]

theorem releaseAll_fst
    (shelf : Shelf geometry)
    (memory : Memory σ) :
    (shelf.releaseAll memory).1 = empty := by
  cases serving : shelf.active with
  | none => rw [releaseAll_of_inactive serving]
  | some active => rw [releaseAll_of_active serving]

/-- The log is not told of slabs that are given back one by one. -/
theorem journal_releaseEach
    (slabs : List (Slab geometry))
    (memory : Memory σ) :
    (releaseEach slabs memory).journal = memory.journal := by
  induction slabs generalizing memory with
  | nil => rfl
  | cons slab slabs ih => exact ih (slab.release memory)

/-- The log is told once how many retired slabs go, if any do. -/
theorem journal_releaseRetired
    (shelf : Shelf geometry)
    (memory : Memory σ) :
    (shelf.releaseRetired memory).2.journal =
      if shelf.retired = [] then
        memory.journal
      else
        .releasingRetired shelf.retiredCount :: memory.journal := by
  unfold releaseRetired
  dsimp only
  rw [journal_releaseEach]
  split <;> rfl

theorem journal_releaseAll
    (shelf : Shelf geometry)
    (memory : Memory σ) :
    (shelf.releaseAll memory).2.journal =
      (shelf.active.toList.map fun active =>
        Event.releasingActive active.capacity) ++
        (shelf.releaseRetired memory).2.journal := by
  cases serving : shelf.active with
  | none =>
    rw [releaseAll_of_inactive serving]
    rfl
  | some active =>
    rw [releaseAll_of_active serving]
    rfl

/-- When all slabs are given back, no block is held and the shelf is as new. -/
theorem releaseAll_spec
    (shelf : Shelf geometry)
    (memory : Memory σ)
    (held : memory.held.Perm (shelf.slabs.map Slab.block)) :
    (shelf.releaseAll memory).1 = empty ∧
      (shelf.releaseAll memory).2.held = [] := by
  have left := shelf.held_releaseRetired held
  cases serving : shelf.active with
  | none =>
    rw [serving] at left
    rw [releaseAll_of_inactive serving]
    exact ⟨rfl, left.eq_nil⟩
  | some active =>
    rw [serving] at left
    rw [releaseAll_of_active serving]
    have erased := left.erase active.block
    rw [Option.toList_some, List.map_singleton, List.erase_cons_head] at erased
    exact ⟨rfl, erased.eq_nil⟩

end Shelf

namespace Pool

variable {config : Config} {pool : Pool config} {memory : Memory σ}

/-! ## Clearing -/

/-- Of the shelf of a cleared pool, the active slab and the storage are left. -/
theorem shelf_clear
    (pool : Pool config)
    (memory : Memory σ) :
    (pool.clear memory).1.shelf =
      ⟨pool.shelf.active.map fun slab => { slab with live := 0 }, [],
        pool.shelf.room⟩ :=
  rfl

theorem activeCapacity_clear
    (pool : Pool config)
    (memory : Memory σ) :
    (pool.clear memory).1.activeCapacity = pool.activeCapacity := by
  rw [activeCapacity, activeCapacity, shelf_clear]
  cases pool.shelf.active <;> rfl

theorem highWater_clear
    (pool : Pool config)
    (memory : Memory σ) :
    (pool.clear memory).1.highWater = 0 := by
  rw [highWater, shelf_clear]
  cases pool.shelf.active <;> rfl

/-- The log is told of a clearing after the retired slabs. -/
theorem journal_clear
    (pool : Pool config)
    (memory : Memory σ) :
    (pool.clear memory).2.journal =
      .cleared pool.activeCapacity config.geometry.item.size ::
        (pool.shelf.releaseRetired memory).2.journal := by
  rw [← pool.activeCapacity_clear memory]
  rfl

/-- No slot of a cleared pool is in use. -/
theorem inUse_clear
    (pool : Pool config)
    (memory : Memory σ) :
    (pool.clear memory).1.inUse = ∅ := by
  rw [inUse, highWater_clear]
  rfl

theorem blocks_clear
    (pool : Pool config)
    (memory : Memory σ) :
    (pool.clear memory).1.shelf.slabs.map Slab.block =
      pool.shelf.active.toList.map Slab.block := by
  rw [shelf_clear, Shelf.slabs]
  cases pool.shelf.active <;> rfl

theorem Sound.clear
    (sound : pool.Sound)
    (memory : Memory σ) :
    (pool.clear memory).1.Sound where
  orderly :=
    { sited := by
        intro slab member
        rcases Shelf.mem_slabs.1 member with serving | retired
        · rw [shelf_clear, Option.map_eq_some_iff] at serving
          rcases serving with ⟨active, before, rfl⟩
          exact (sound.orderly.sited_active before).withLive 0
        · cases retired
      apart := by
        rw [blocks_clear]
        cases pool.shelf.active with
        | none => exact List.Pairwise.nil
        | some active => exact List.pairwise_singleton _ _
      ascending := List.Pairwise.nil
      counted := by
        intro slab retired
        cases retired
      led := fun _ => rfl }
  settled := by
    rw [activeCapacity_clear, highWater_clear]
    exact sound.settled.wiped
  fits := Nat.zero_le _
  hinted := by
    have hinted := sound.hinted
    rw [dueHint] at hinted ⊢
    rw [shelf_clear]
    show pool.hint = _
    rw [hinted]
    cases pool.shelf.active <;> rfl

theorem Balanced.clear
    (balanced : pool.Balanced memory) :
    (pool.clear memory).1.Balanced (pool.clear memory).2 where
  sound := balanced.sound.clear memory
  held := by
    rw [blocks_clear]
    exact pool.shelf.held_releaseRetired balanced.held

/-! ## Destroying -/

theorem Sound.slabCount_eq_zero_iff
    (sound : pool.Sound) :
    pool.shelf.slabCount = 0 ↔ pool.shelf.slabs = [] := by
  rw [sound.orderly.slabCount_eq, List.length_eq_zero_iff]

/-- A destroyed pool has no slab; one that had none is left alone. -/
theorem Balanced.destroy_cases
    (balanced : pool.Balanced memory) :
    (pool.shelf.slabs = [] ∧ pool.destroy memory = (pool, memory)) ∨
    (pool.shelf.slabs ≠ [] ∧ (pool.destroy memory).1 = idle ∧
      (pool.destroy memory).2.held = []) := by
  have empty_iff := balanced.sound.slabCount_eq_zero_iff
  unfold destroy
  split
  case isTrue none => exact Or.inl ⟨empty_iff.1 none, rfl⟩
  case isFalse some =>
    rcases pool.shelf.releaseAll_spec
        (memory.note
          (.destroyed pool.shelf.slabCount config.geometry.item.size))
        balanced.held with
      ⟨shelf, held⟩
    refine Or.inr ⟨fun none => some (empty_iff.2 none), ?_, held⟩
    dsimp only
    rw [shelf]
    rfl

theorem Balanced.slabs_destroy
    (balanced : pool.Balanced memory) :
    (pool.destroy memory).1.shelf.slabs = [] := by
  rcases balanced.destroy_cases with ⟨none, same⟩ | ⟨-, renewed, -⟩
  · rw [same]
    exact none
  · rw [renewed]
    rfl

theorem Balanced.held_destroy
    (balanced : pool.Balanced memory) :
    (pool.destroy memory).2.held = [] := by
  rcases balanced.destroy_cases with ⟨none, same⟩ | ⟨-, -, held⟩
  · rw [same]
    have held := balanced.held
    rw [none] at held
    exact held.eq_nil
  · exact held

/-- Disposal leaves no slab. -/
theorem Balanced.slabs_dispose
    (balanced : pool.Balanced memory)
    (unwinding : Bool) :
    (pool.dispose unwinding memory).pool.shelf.slabs = [] := by
  unfold dispose isEmpty
  rw [balanced.sound.itemCount_eq]
  dsimp only [Except.map]
  split <;> exact balanced.slabs_destroy

/-- Disposal gives back all memory, whatever items are left. -/
theorem Balanced.held_dispose
    (balanced : pool.Balanced memory)
    (unwinding : Bool) :
    (pool.dispose unwinding memory).memory.held = [] := by
  unfold dispose isEmpty
  rw [balanced.sound.itemCount_eq]
  dsimp only [Except.map]
  split <;> exact balanced.held_destroy

theorem Balanced.destroy
    (balanced : pool.Balanced memory) :
    (pool.destroy memory).1.Balanced (pool.destroy memory).2 where
  sound := by
    rcases balanced.destroy_cases with ⟨-, same⟩ | ⟨-, renewed, -⟩
    · rw [same]
      exact balanced.sound
    · rw [renewed]
      exact sound_idle
  held := by
    rw [balanced.held_destroy, balanced.slabs_destroy]
    exact List.Perm.nil

end Pool

/-! ## Walking -/

namespace Walk

/-- At most `count` indices that a walk visits, wherever its slab lies. -/
def indices (finish : Nat) : Nat → Nat → List Nat → List Nat
  | 0, _, _ => []
  | count + 1, next, vacant =>
    match passVacant finish next vacant with
    | (next, vacant) =>
      if next < finish then
        next :: indices finish count (next + 1) vacant
      else
        []

theorem lt_of_mem_indices
    {finish count next : Nat}
    {vacant : List Nat}
    {index : Nat}
    (member : index ∈ indices finish count next vacant) :
    index < finish := by
  induction count generalizing next vacant with
  | zero => cases member
  | succ count ih =>
    rw [indices] at member
    dsimp only at member
    split at member
    case isTrue below =>
      rcases List.mem_cons.1 member with rfl | later
      · exact below
      · exact ih later
    case isFalse beyond => cases member

/-- A walk below the capacity of its slab visits slots of the slab. -/
theorem visits_eq
    {geometry : Geometry}
    {slab : Slab geometry}
    (sited : slab.Sited)
    {walk : Walk geometry}
    (there : walk.slab = some slab)
    (within : walk.finish ≤ slab.capacity)
    (count : Nat) :
    walk.visits count =
      .ok ((indices walk.finish count walk.next walk.vacant).map
        slab.slotAt) := by
  induction count generalizing walk with
  | zero => rfl
  | succ count ih =>
    rw [visits, step, there, indices]
    cases passVacant walk.finish walk.next walk.vacant with
    | mk next vacant =>
      dsimp only
      by_cases below : next < walk.finish
      · rw [if_pos below, if_pos below,
          Slab.slotAddress_eq sited (Nat.lt_of_lt_of_le below within)]
        dsimp only [Except.map]
        have rest :
            ({ walk with next := next + 1, vacant } : Walk geometry).slab =
              some slab :=
          there
        rw [← there, ih rest within]
        rfl
      · rw [if_neg below, if_neg below]
        rfl

end Walk

namespace Pool

/-- A sound pool lists slots of its active slab, if it has one. -/
theorem Sound.walk_toList_eq
    {config : Config}
    {pool : Pool config}
    (sound : pool.Sound)
    {active : Slab config.geometry}
    (serving : pool.shelf.active = some active) :
    pool.walk.toList =
      .ok ((Walk.indices active.live active.live 0
        pool.vacancies.ascending).map active.slotAt) := by
  have sited := sound.orderly.sited_active serving
  have marked := (sound.settled_active serving).mark_le
  rw [walk, serving]
  exact Walk.visits_eq sited rfl marked active.live

theorem walk_toList_of_inactive
    {config : Config}
    {pool : Pool config}
    (inactive : pool.shelf.active = none) :
    pool.walk.toList = .ok [] := by
  rw [walk, inactive]
  rfl

theorem Sound.exists_walk_toList_eq
    {config : Config}
    {pool : Pool config}
    (sound : pool.Sound) :
    ∃ addresses, pool.walk.toList = .ok addresses := by
  cases serving : pool.shelf.active with
  | none => exact ⟨[], walk_toList_of_inactive serving⟩
  | some active => exact ⟨_, sound.walk_toList_eq serving⟩

end Pool

end SlabPool
