import SlabPool.Pool.Growth
import SlabPool.Proofs.Provision

/-!
# What is asked of a provider, whatever it answers

This module lists what the parts of a growth do with memory, for any pool and
any provider: `Asked` for bookkeeping storage, `Acquisition` for the block of a
slab, and `Preparation` for all requests of a growth together.  What is to be
known of a growth that may be refused at any request is read off these lists.
-/

namespace SlabPool

variable {σ : Type} [Provider σ]

/-! ## Bookkeeping storage -/

namespace Memory

/-- Memory after a request for bookkeeping storage, if there was one. -/
inductive Asked
    (memory : Memory σ)
    (resource : Resource) :
    Memory σ → Prop where
  | spared : Asked memory resource memory
  | secured (bytes : Nat) :
      Asked memory resource (memory.secure resource bytes).2

theorem Asked.undisturbed
    {memory after : Memory σ}
    {resource : Resource}
    (asked : memory.Asked resource after) :
    memory.Undisturbed after := by
  cases asked with
  | spared => exact .refl memory
  | secured bytes => exact ⟨rfl, rfl⟩

end Memory

theorem Vacancies.asked_ofCapacity
    (capacity : Nat)
    (memory : Memory σ) :
    memory.Asked .marks (ofCapacity capacity memory).2 := by
  unfold ofCapacity
  dsimp only
  split
  case isTrue nothing => exact .spared
  case isFalse something =>
    generalize Word.saturatingMul (Marks.wordsFor capacity) entryBytes = bytes
    have asked : memory.Asked .marks (memory.secure .marks bytes).2 :=
      .secured bytes
    generalize memory.secure .marks bytes = answer at asked ⊢
    rcases answer with ⟨granted | granted, after⟩ <;> exact asked

theorem Vacancies.asked_reserve
    (vacancies : Vacancies)
    (memory : Memory σ) :
    memory.Asked .vacancies (vacancies.reserve memory).2 := by
  unfold reserve
  dsimp only
  split
  case isTrue full =>
    generalize entryBytes * extendedRoom vacancies.room = bytes
    have asked : memory.Asked .vacancies (memory.secure .vacancies bytes).2 :=
      .secured bytes
    generalize memory.secure .vacancies bytes = answer at asked ⊢
    rcases answer with ⟨granted | granted, after⟩ <;> exact asked
  case isFalse roomy => exact .spared

namespace Shelf

variable {geometry : Geometry} (shelf : Shelf geometry) (memory : Memory σ)

/-- Room for retired slabs is asked for just if there is none left. -/
theorem memory_reserveRetirement :
    (shelf.reserveRetirement memory).2 =
      if shelf.retiredCount = shelf.room then
        (memory.secure .retirement
          (entryBytes * extendedRoom shelf.room)).2
      else
        memory := by
  unfold reserveRetirement
  dsimp only
  split
  case isTrue full =>
    rcases memory.secure .retirement _ with ⟨granted | granted, after⟩ <;> rfl
  case isFalse roomy => rfl

theorem asked_reserveRetirement :
    memory.Asked .retirement (shelf.reserveRetirement memory).2 := by
  rw [memory_reserveRetirement]
  split
  case isTrue full => exact .secured _
  case isFalse roomy => exact .spared

/-- Room on the shelf changes nothing but the room. -/
theorem eq_of_reserveRetirement
    {shelf roomy : Shelf geometry}
    {memory after : Memory σ}
    (made : shelf.reserveRetirement memory = (.ok roomy, after)) :
    ∃ room, roomy = { shelf with room } := by
  unfold reserveRetirement at made
  dsimp only at made
  split at made
  case isTrue full =>
    generalize memory.secure .retirement _ = answer at made
    rcases answer with ⟨granted | granted, after⟩ <;> cases made
    exact ⟨_, rfl⟩
  case isFalse roomy =>
    cases made
    exact ⟨shelf.room, rfl⟩

end Shelf

/-! ## The block of a slab -/

/-- The layout of a slab is that of its slots together. -/
theorem Geometry.eq_of_slabLayout
    {geometry : Geometry}
    {capacity : Nat}
    {layout : Layout}
    (made : geometry.slabLayout capacity = .ok layout) :
    layout.size = geometry.stride * capacity ∧
      layout.align = geometry.item.align := by
  unfold slabLayout at made
  split at made
  case h_1 overflow => cases made
  case h_2 bytes exact =>
    split at made
    case h_1 tooLarge => cases made
    case h_2 laidOut =>
      cases made
      rcases Layout.of?_eq_some_iff.1 laidOut with ⟨size, align⟩
      exact ⟨size.trans (Word.mul?_eq_some_iff.1 exact).2.symm, align⟩

namespace Slab

variable {geometry : Geometry}

/-- The ways in which the request for a new slab can end. -/
inductive Acquisition
    (geometry : Geometry)
    (capacity : Nat)
    (memory : Memory σ) :
    Except Fault (Slab geometry) → Memory σ → Prop where
  /-- No block has so many slots. -/
  | excessive (fault : Fault) :
      Acquisition geometry capacity memory (.error fault) memory
  | refused
      {layout : Layout}
      {after : Memory σ}
      (fault : Fault)
      (refused : memory.acquire layout = (none, after)) :
      Acquisition geometry capacity memory (.error fault) after
  | granted
      {layout : Layout}
      {base : Nat}
      {after : Memory σ}
      (size : layout.size = geometry.stride * capacity)
      (align : layout.align = geometry.item.align)
      (granted : memory.acquire layout = (some base, after)) :
      Acquisition geometry capacity memory (.ok ⟨base, capacity, 0⟩) after

theorem acquire_spec
    (capacity : Nat)
    (memory : Memory σ) :
    Acquisition geometry capacity memory
      (acquire geometry capacity memory).1
      (acquire geometry capacity memory).2 := by
  unfold acquire
  cases made : geometry.slabLayout capacity with
  | error fault => exact .excessive fault
  | ok layout =>
    rcases Geometry.eq_of_slabLayout made with ⟨size, align⟩
    dsimp only
    cases acquired : memory.acquire layout with
    | mk base after =>
      cases base with
      | none => exact .refused _ acquired
      | some base => exact .granted size align acquired

end Slab

/-! ## All requests of a growth -/

namespace Pool

variable {config : Config}

/-- The ways in which the requests for a slab of this capacity can end. -/
inductive Preparation
    (pool : Pool config)
    (capacity : Nat)
    (memory : Memory σ) :
    Except Fault (Slab config.geometry × Vacancies) →
      Shelf config.geometry → Memory σ → Prop where
  | roomRefused (fault : Fault) :
      Preparation pool capacity memory (.error fault) pool.shelf
        (pool.shelf.reserveRetirement memory).2
  | slabRefused
      {fault : Fault}
      {room : Nat}
      {after : Memory σ}
      (refused :
        Slab.Acquisition config.geometry capacity
          (pool.shelf.reserveRetirement memory).2 (.error fault) after) :
      Preparation pool capacity memory (.error fault)
        { pool.shelf with room } after
  /-- The block of the slab was granted, and is given back. -/
  | marksRefused
      {slab : Slab config.geometry}
      {room : Nat}
      {placed marked : Memory σ}
      (fault : Fault)
      (acquired :
        Slab.Acquisition config.geometry capacity
          (pool.shelf.reserveRetirement memory).2 (.ok slab) placed)
      (asked : placed.Asked .marks marked) :
      Preparation pool capacity memory (.error fault)
        { pool.shelf with room } (slab.release marked)
  | prepared
      {slab : Slab config.geometry}
      {vacancies : Vacancies}
      {room : Nat}
      {placed marked : Memory σ}
      (acquired :
        Slab.Acquisition config.geometry capacity
          (pool.shelf.reserveRetirement memory).2 (.ok slab) placed)
      (asked : placed.Asked .marks marked) :
      Preparation pool capacity memory (.ok (slab, vacancies))
        { pool.shelf with room } marked

variable (pool : Pool config)

theorem prepare_spec
    (capacity : Nat)
    (memory : Memory σ) :
    pool.Preparation capacity memory (pool.prepare capacity memory).1
      (pool.prepare capacity memory).2.1
      (pool.prepare capacity memory).2.2 := by
  unfold prepare
  cases made : pool.shelf.reserveRetirement memory with
  | mk answer roomy =>
    have left : (pool.shelf.reserveRetirement memory).2 = roomy := by
      rw [made]
    subst left
    cases answer with
    | error fault => exact .roomRefused fault
    | ok shelf =>
      rcases Shelf.eq_of_reserveRetirement made with ⟨room, rfl⟩
      have acquired :
          Slab.Acquisition config.geometry capacity
            (pool.shelf.reserveRetirement memory).2 _ _ :=
        Slab.acquire_spec capacity _
      dsimp only [Slab.furnish]
      generalize
        Slab.acquire config.geometry capacity
          (pool.shelf.reserveRetirement memory).2 = answer
        at acquired ⊢
      rcases answer with ⟨fault | slab, placed⟩
      · exact .slabRefused acquired
      · have asked := Vacancies.asked_ofCapacity capacity placed
        dsimp only
        generalize Vacancies.ofCapacity capacity placed = answer at asked ⊢
        rcases answer with ⟨fault | vacancies, marked⟩
        · exact .marksRefused fault acquired asked
        · exact .prepared acquired asked

/-- Growth is refused, or what was prepared is installed. -/
theorem grow_cases
    (required : Nat)
    (memory : Memory σ) :
    (config.limit < required ∧
      pool.grow required memory =
        ⟨.error (.fault (.capacityOverflow required config.limit)), pool,
          memory⟩) ∨
    (required ≤ config.limit ∧ ∃ fault shelf after,
      pool.Preparation (pool.grownCapacity required) memory
          (.error fault) shelf after ∧
        pool.grow required memory =
          ⟨.error (.fault fault), { pool with shelf }, after⟩) ∨
    (required ≤ config.limit ∧ ∃ slab vacancies shelf after,
      pool.Preparation (pool.grownCapacity required) memory
          (.ok (slab, vacancies)) shelf after ∧
        pool.grow required memory =
          ({ pool with shelf } : Pool config).install slab vacancies
            after) := by
  have preparation := pool.prepare_spec (pool.grownCapacity required) memory
  unfold grow
  split
  case isTrue beyond => exact Or.inl ⟨beyond, rfl⟩
  case isFalse within =>
    have bounded := Nat.le_of_not_lt within
    generalize pool.prepare (pool.grownCapacity required) memory = answer
      at preparation ⊢
    rcases answer with ⟨fault | ⟨slab, vacancies⟩, shelf, after⟩
    · exact Or.inr (Or.inl ⟨bounded, fault, shelf, after, preparation, rfl⟩)
    · exact
        Or.inr
          (Or.inr
            ⟨bounded, slab, vacancies, shelf, after, preparation, rfl⟩)

omit [Provider σ] in
/-- Installation does to the shelf and the memory what activation does, and may note it. -/
theorem install_cases
    (slab : Slab config.geometry)
    (vacancies : Vacancies)
    (memory : Memory σ) :
    ∃ answer shelf after,
      pool.shelf.activate slab pool.activeItems memory =
          (answer, shelf, after) ∧
        (pool.install slab vacancies memory).pool.shelf = shelf ∧
          ((pool.install slab vacancies memory).memory = after ∨
            ∃ event,
              (pool.install slab vacancies memory).memory =
                after.note event) := by
  unfold install
  generalize pool.shelf.activate slab pool.activeItems memory = activated
  rcases activated with ⟨breach | done, shelf, after⟩
  · exact ⟨_, shelf, after, rfl, rfl, Or.inl rfl⟩
  · dsimp only
    split <;> exact ⟨_, shelf, after, rfl, rfl, Or.inr ⟨_, rfl⟩⟩

omit [Provider σ] in
/-- To install a slab that was granted makes no further request. -/
theorem answer_install_ne_fault
    (slab : Slab config.geometry)
    (vacancies : Vacancies)
    (memory : Memory σ)
    (fault : Fault) :
    (pool.install slab vacancies memory).answer ≠ .error (.fault fault) := by
  unfold install
  rcases pool.shelf.activate slab pool.activeItems memory with
    ⟨breach | done, shelf, after⟩
  · exact nofun
  · dsimp only
    split <;> exact nofun

end Pool

end SlabPool
