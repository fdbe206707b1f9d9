import SlabPool.ItemPool
import SlabPool.Proofs.Requests
import SlabPool.Proofs.Run

/-!
# An operation that answers with a fault has done nothing

Up to three requests for memory are made when a pool grows, and one when a
vacancy is recorded; each can be refused.  `Unharmed` says that a pool and its
memory are as they were before but for room on the shelf: the slabs with their
counts, the vacancies with their marks, the hint, the held blocks and the log.

`unharmed_of_fault` says that a fault leaves the pool unharmed, and that no code
of the caller was run.  It is about all pools: the order of the steps alone
makes it true, whatever state the pool is in and whatever the provider grants.
-/

namespace SlabPool

variable {σ : Type}

/-! ## Pools -/

namespace Pool

variable {config : Config} (pool : Pool config) (memory : Memory σ)

/-- Pool and memory are as they were, but for room on the shelf. -/
structure Unharmed
    (left : Pool config)
    (after : Memory σ) :
    Prop where
  pool : ∃ room, left = { pool with shelf := { pool.shelf with room } }
  memory : memory.Undisturbed after

theorem Unharmed.refl : pool.Unharmed memory pool memory :=
  ⟨⟨pool.shelf.room, rfl⟩, .refl memory⟩

/-- If the operation answers with a fault, the pool is unharmed. -/
def Spares {α : Type} (outcome : Outcome (Pool config) σ α) : Prop :=
  ∀ fault, outcome.answer = .error (.fault fault) →
    pool.Unharmed memory outcome.pool outcome.memory

/-- An operation that does not answer with a fault spares the pool. -/
theorem spares_of_ne_fault
    {α : Type}
    {outcome : Outcome (Pool config) σ α}
    (differs : ∀ fault, outcome.answer ≠ .error (.fault fault)) :
    pool.Spares memory outcome :=
  fun fault faulty => absurd faulty (differs fault)

theorem answer_refill_ne_fault
    (index : Nat)
    (fault : Fault) :
    (pool.refill index memory).answer ≠ .error (.fault fault) := by
  unfold refill
  cases pool.shelf.active with
  | none => exact nofun
  | some active => exact Stop.mapError_breach_ne_fault _ fault

theorem answer_extend_ne_fault
    (fault : Fault) :
    (pool.extend memory).answer ≠ .error (.fault fault) := by
  unfold extend
  cases pool.shelf.active with
  | none => exact nofun
  | some active =>
    dsimp only
    rcases active.bump with breach | ⟨index, bumped⟩
    · exact nofun
    · exact Stop.mapError_breach_ne_fault _ fault

variable [Provider σ]

/-- What was granted to a refused growth was given back, but for the room. -/
theorem Preparation.unharmed
    {pool : Pool config}
    {memory after : Memory σ}
    {capacity : Nat}
    {fault : Fault}
    {shelf : Shelf config.geometry}
    (preparation :
      pool.Preparation capacity memory (.error fault) shelf after) :
    pool.Unharmed memory { pool with shelf } after := by
  have reserved :=
    (pool.shelf.asked_reserveRetirement memory).undisturbed
  cases preparation with
  | roomRefused => exact ⟨⟨pool.shelf.room, rfl⟩, reserved⟩
  | @slabRefused _ room _ acquisition =>
    refine ⟨⟨room, rfl⟩, reserved.trans ?_⟩
    cases acquisition with
    | excessive => exact .refl _
    | refused _ refused => exact Memory.acquire_refused refused
  | @marksRefused slab room placed marked _ acquisition asked =>
    have kept := asked.undisturbed
    refine ⟨⟨room, rfl⟩, reserved.trans ?_⟩
    cases acquisition with
    | granted size align granted =>
      rcases Memory.acquire_granted granted with ⟨-, held, journal⟩
      rw [size, align] at held
      refine ⟨?_, kept.journal.trans journal⟩
      rw [Slab.release, Memory.giveBack, kept.held, held]
      exact List.erase_cons_head _ _

theorem spares_grow (required : Nat) :
    pool.Spares memory (pool.grow required memory) := by
  intro fault faulty
  rcases pool.grow_cases required memory with
    ⟨-, same⟩ | ⟨-, cause, shelf, after, preparation, same⟩ |
    ⟨-, slab, vacancies, shelf, after, -, same⟩
  · rw [same]
    exact .refl pool memory
  · rw [same]
    exact preparation.unharmed
  · rw [same] at faulty
    exact absurd faulty (answer_install_ne_fault _ slab vacancies after fault)

theorem spares_reserve (additional : Nat) :
    pool.Spares memory (pool.reserve additional memory) := by
  unfold reserve
  split
  case isTrue enough => exact fun _ => nofun
  case isFalse short => exact pool.spares_grow memory additional

theorem spares_allocate :
    pool.Spares memory (pool.allocate memory) := by
  unfold allocate
  rcases pool.vacancies.takeHighest with ⟨breach | _ | index, vacancies⟩
  · exact fun _ => nofun
  · dsimp only
    split
    case isTrue exhausted =>
      have grown := pool.spares_grow memory 1
      generalize pool.grow 1 memory = outcome at grown ⊢
      rcases outcome with ⟨stop | done, grownPool, after⟩
      · intro fault faulty
        cases faulty
        exact grown fault rfl
      · exact pool.spares_of_ne_fault memory
          (grownPool.answer_extend_ne_fault after)
    case isFalse room =>
      exact pool.spares_of_ne_fault memory (pool.answer_extend_ne_fault memory)
  · apply spares_of_ne_fault
    exact answer_refill_ne_fault _ memory index

section Removal

variable {β : Type} (act : Nat → β → β) (world : β)

/-- If the removal answers with a fault, nor was `act` applied to the world. -/
def SparesBoth (result : Outcome (Pool config) σ Unit × β) : Prop :=
  pool.Spares memory result.1 ∧
    ∀ fault, result.1.answer = .error (.fault fault) → result.2 = world

omit [Provider σ] in
theorem sparesBoth_of_ne_fault
    {result : Outcome (Pool config) σ Unit × β}
    (differs : ∀ fault, result.1.answer ≠ .error (.fault fault)) :
    pool.SparesBoth memory world result :=
  ⟨pool.spares_of_ne_fault memory differs,
    fun fault faulty => absurd faulty (differs fault)⟩

theorem sparesBoth_removeActive
    (active : Slab config.geometry)
    (index address : Nat) :
    pool.SparesBoth memory world
      (pool.removeActive active index address act world memory) := by
  unfold removeActive
  split
  case isTrue unused => exact ⟨fun _ _ => .refl pool memory, fun _ _ => rfl⟩
  case isFalse used =>
    split
    case isTrue top =>
      exact
        pool.sparesBoth_of_ne_fault memory world
          (Stop.mapError_breach_ne_fault (pool.lower active).1)
    case isFalse below =>
      have asked := (pool.vacancies.asked_reserve memory).undisturbed
      generalize pool.vacancies.reserve memory = answer at asked ⊢
      rcases answer with ⟨fault | vacancies, after⟩
      · exact ⟨fun _ _ => ⟨⟨pool.shelf.room, rfl⟩, asked⟩, fun _ _ => rfl⟩
      · exact
          pool.sparesBoth_of_ne_fault memory world
            (Stop.mapError_breach_ne_fault (vacancies.record index).1)

theorem sparesBoth_removeWith (address : Nat) :
    pool.SparesBoth memory world
      (pool.removeWith address act world memory) := by
  unfold removeWith
  rcases pool.shelf.locate address with _ | index | position
  · exact ⟨fun _ _ => .refl pool memory, fun _ _ => rfl⟩
  · cases pool.shelf.active with
    | none => exact pool.sparesBoth_of_ne_fault memory world fun _ => nofun
    | some active =>
      exact pool.sparesBoth_removeActive memory act world active index address
  · dsimp only
    rcases pool.shelf.removeRetiredItem position memory with
      ⟨breach | gone, shelf, after⟩ <;>
      exact pool.sparesBoth_of_ne_fault memory world fun _ => nofun

end Removal

end Pool

/-! ## Pools that hold items -/

namespace ItemPool

variable {config : Config} {α : Type}
variable (pool : ItemPool config α) (memory : Memory σ)

/-- Items and slots are as they were, but for room on the shelf. -/
structure Unharmed
    (left : ItemPool config α)
    (after : Memory σ) :
    Prop where
  items : left.items = pool.items
  slots : pool.slots.Unharmed memory left.slots after

/-- If the operation answers with a fault, the pool is unharmed. -/
def Spares {β : Type} (outcome : Outcome (ItemPool config α) σ β) : Prop :=
  ∀ fault, outcome.answer = .error (.fault fault) →
    pool.Unharmed memory outcome.pool outcome.memory

variable [Provider σ]

theorem spares_insert (item : α) :
    pool.Spares memory (pool.insert item memory) := by
  have allocated := pool.slots.spares_allocate memory
  unfold insert
  generalize pool.slots.allocate memory = outcome at allocated ⊢
  rcases outcome with ⟨stop | address, slots, after⟩
  · intro fault faulty
    cases faulty
    exact ⟨rfl, allocated fault rfl⟩
  · exact fun _ => nofun

/-- If there is no slot to fill, the initializer is not called. -/
theorem spares_insertWith (initializer : Initializer α) :
    pool.Spares memory (pool.insertWith initializer memory).1 ∧
      ∀ fault,
        (pool.insertWith initializer memory).1.answer =
            .error (.fault fault) →
          (pool.insertWith initializer memory).2 = false := by
  have allocated := pool.slots.spares_allocate memory
  unfold insertWith
  generalize pool.slots.allocate memory = outcome at allocated ⊢
  rcases outcome with ⟨stop | address, slots, after⟩
  · refine ⟨?_, fun _ _ => rfl⟩
    intro fault faulty
    cases faulty
    exact ⟨rfl, allocated fault rfl⟩
  · cases initializer <;> exact ⟨fun _ => nofun, fun _ => nofun⟩

theorem spares_remove (address : Nat) :
    pool.Spares memory (pool.remove address memory) := by
  have removed :=
    pool.slots.sparesBoth_removeWith memory moveOut (pool.items, none) address
  unfold remove
  generalize pool.slots.removeWith address moveOut (pool.items, none) memory =
    result at removed ⊢
  rcases result with ⟨⟨stop | done, slots, after⟩, items, item⟩
  · intro fault faulty
    cases faulty
    rcases removed with ⟨spared, idle⟩
    exact ⟨congrArg Prod.fst (idle fault rfl), spared fault rfl⟩
  · cases item <;> exact fun _ => nofun

/--
An operation that answers with a fault leaves the pool and its memory as they
were, but for room on the shelf, and has not run any code of the caller.
-/
theorem unharmed_of_fault :
    pool.slots.Spares memory (pool.slots.allocate memory) ∧
      (∀ additional,
        pool.slots.Spares memory (pool.slots.reserve additional memory)) ∧
        (∀ (β : Type) address (act : Nat → β → β) world,
          pool.slots.SparesBoth memory world
            (pool.slots.removeWith address act world memory)) ∧
          (∀ item, pool.Spares memory (pool.insert item memory)) ∧
            (∀ initializer,
              pool.Spares memory (pool.insertWith initializer memory).1 ∧
                ∀ fault,
                  (pool.insertWith initializer memory).1.answer =
                      .error (.fault fault) →
                    (pool.insertWith initializer memory).2 = false) ∧
              ∀ address, pool.Spares memory (pool.remove address memory) :=
  ⟨pool.slots.spares_allocate memory,
    pool.slots.spares_reserve memory,
    fun _ address act world =>
      pool.slots.sparesBoth_removeWith memory act world address,
    pool.spares_insert memory,
    pool.spares_insertWith memory,
    pool.spares_remove memory⟩

/-- The lower of two items stays where its vacancy cannot be recorded. -/
theorem unharmed_of_refusedVacancy :
    let first :=
      (idle : ItemPool Sample.config Nat).insert 5 (Memory.fresh Sample.arena)
    let second := first.pool.insert 6 first.memory
    let memory := second.memory.refusing [.vacancies]
    let removed := second.pool.remove Arena.origin memory
    removed.answer = .error (.fault (.allocationFailed 8 8)) ∧
      second.pool.Unharmed memory removed.pool removed.memory := by
  intro first second memory removed
  have faulty : removed.answer = .error (.fault (.allocationFailed 8 8)) := by
    decide +kernel
  have spared := unharmed_of_fault second.pool memory
  exact ⟨faulty, spared.2.2.2.2.2 Arena.origin _ faulty⟩

end ItemPool

end SlabPool
