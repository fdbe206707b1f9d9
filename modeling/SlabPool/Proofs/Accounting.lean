import SlabPool.Proofs.Atomicity
import SlabPool.Proofs.Ledger
import SlabPool.Proofs.Run

/-!
# A pool accounts for its memory

`Pool.Accounted` says that the held blocks are those of the slabs, one for each
slab, and that no block was given back that was not held.  Every operation
keeps the account, also where it is refused or breaks off, and whatever blocks
the provider grants.

Disposal leaves nothing held.  For the answer to a disposal the counts of the
pool matter, and these may wrap around where blocks overlap, so that part is
about providers that keep blocks apart.
-/

namespace SlabPool

namespace Pool

variable {config : Config} {σ : Type}

/-- The held blocks are those of the slabs, as the ledger says. -/
def Accounted (pool : Pool config) (memory : Memory σ) : Prop :=
  memory.Accounted (pool.shelf.slabs.map Slab.block)

/-- The pool that is left accounts for the memory that is left. -/
def KeepsAccount {α : Type} (outcome : Outcome (Pool config) σ α) : Prop :=
  outcome.pool.Accounted outcome.memory

variable {pool : Pool config} {memory : Memory σ}

theorem accounted_idle (provider : σ) :
    (idle : Pool config).Accounted (Memory.fresh provider) :=
  .fresh provider

/-- With the same block in the active slab, the account is the same. -/
theorem Accounted.withActive
    (accounted : pool.Accounted memory)
    {active changed : Slab config.geometry}
    (serving : pool.shelf.active = some active)
    (same : changed.block = active.block)
    (vacancies : Vacancies) :
    ({ pool with
        shelf := { pool.shelf with active := some changed }
        vacancies } : Pool config).Accounted memory := by
  rw [Accounted, Shelf.slabs_of_active serving] at accounted
  rw [Accounted, Shelf.slabs_of_active rfl, List.map_cons, same]
  exact accounted

/-! ## Growth -/

theorem accounted_install
    {slab : Slab config.geometry}
    (vacancies : Vacancies)
    (accounted :
      memory.Accounted (slab.block :: pool.shelf.slabs.map Slab.block)) :
    KeepsAccount (pool.install slab vacancies memory) := by
  have activated := pool.shelf.accounted_activate pool.activeItems accounted
  unfold install
  generalize pool.shelf.activate slab pool.activeItems memory = answer
    at activated ⊢
  rcases answer with ⟨breach | done, shelf, after⟩
  · exact activated
  · dsimp only
    split <;> exact activated.note _

variable [Provider σ]

/-- The slabs stay where they are, and only the block of a new one is added. -/
theorem Preparation.accounted
    {capacity : Nat}
    {answer : Except Fault (Slab config.geometry × Vacancies)}
    {shelf : Shelf config.geometry}
    {after : Memory σ}
    (preparation : pool.Preparation capacity memory answer shelf after)
    (accounted : pool.Accounted memory) :
    shelf.slabs = pool.shelf.slabs ∧
      after.Accounted
        (answer.toOption.toList.map (·.1.block) ++
          pool.shelf.slabs.map Slab.block) := by
  have reserved :=
    Memory.Accounted.asked accounted
      (pool.shelf.asked_reserveRetirement memory)
  cases preparation with
  | roomRefused fault => exact ⟨rfl, reserved⟩
  | slabRefused refused => exact ⟨rfl, refused.accounted reserved⟩
  | marksRefused fault acquired asked =>
    have marked := (acquired.accounted reserved).asked asked
    exact ⟨rfl, Slab.accounted_release marked⟩
  | prepared acquired asked =>
    exact ⟨rfl, (acquired.accounted reserved).asked asked⟩

theorem accounted_grow
    (accounted : pool.Accounted memory)
    (required : Nat) :
    KeepsAccount (pool.grow required memory) := by
  rcases pool.grow_cases required memory with
    ⟨-, same⟩ | ⟨-, fault, shelf, after, preparation, same⟩ |
    ⟨-, slab, vacancies, shelf, after, preparation, same⟩
  · rw [same]
    exact accounted
  · rcases preparation.accounted accounted with ⟨slabs, left⟩
    rw [← slabs] at left
    rw [same]
    exact left
  · rcases preparation.accounted accounted with ⟨slabs, left⟩
    rw [← slabs] at left
    rw [same]
    exact accounted_install vacancies left

/-- A block that was granted to a refused growth is given back. -/
theorem accounted_of_refused_grow
    (accounted : pool.Accounted memory)
    {required : Nat}
    {fault : Fault}
    (refused :
      (pool.grow required memory).answer = .error (.fault fault)) :
    pool.Accounted (pool.grow required memory).memory := by
  have left := accounted_grow accounted required
  rcases (pool.spares_grow memory required fault refused).pool with
    ⟨room, same⟩
  rw [KeepsAccount, same] at left
  exact left

theorem accounted_reserve
    (accounted : pool.Accounted memory)
    (additional : Nat) :
    KeepsAccount (pool.reserve additional memory) := by
  unfold reserve
  split
  case isTrue enough => exact accounted
  case isFalse short => exact accounted_grow accounted additional

/-- Where the slots of a new pool are refused, nothing is held. -/
theorem accounted_of_refused_withCapacity
    (provider : σ)
    {capacity : Nat}
    {fault : Fault}
    (refused :
      (withCapacity capacity (Memory.fresh provider) :
        Outcome (Pool config) σ Unit).answer = .error (.fault fault)) :
    (withCapacity capacity (Memory.fresh provider) :
      Outcome (Pool config) σ Unit).memory.Accounted [] := by
  unfold withCapacity reserve at refused ⊢
  split at refused
  case isTrue enough => cases refused
  case isFalse short =>
    rw [if_neg short]
    exact accounted_of_refused_grow (accounted_idle provider) refused

/-! ## Allocation -/

omit [Provider σ] in
theorem accounted_extend
    (accounted : pool.Accounted memory) :
    KeepsAccount (pool.extend memory) := by
  unfold extend
  cases serving : pool.shelf.active with
  | none => exact accounted
  | some active =>
    dsimp only
    cases made : active.bump with
    | error breach => exact accounted
    | ok bumped =>
      unfold Slab.bump at made
      split at made <;> cases made
      exact accounted.withActive serving rfl pool.vacancies

omit [Provider σ] in
theorem accounted_refill
    (accounted : pool.Accounted memory)
    (index : Nat) :
    KeepsAccount (pool.refill index memory) := by
  unfold refill
  cases pool.shelf.active <;> exact accounted

theorem accounted_allocate
    (accounted : pool.Accounted memory) :
    KeepsAccount (pool.allocate memory) := by
  unfold allocate
  rcases pool.vacancies.takeHighest with ⟨breach | _ | index, vacancies⟩
  · exact accounted
  · dsimp only
    split
    case isTrue exhausted =>
      have grown := accounted_grow accounted 1
      generalize pool.grow 1 memory = outcome at grown ⊢
      rcases outcome with ⟨stop | done, grownPool, after⟩
      · exact grown
      · exact accounted_extend grown
    case isFalse room => exact accounted_extend accounted
  · have kept : ({ pool with vacancies } : Pool config).Accounted memory :=
      accounted
    exact accounted_refill kept index

/-! ## Removal -/

omit [Provider σ] in
/-- The mark of a slab falls, but its block stays. -/
theorem block_settle
    (stack : List Nat)
    (marks : Marks)
    (slab : Slab config.geometry) :
    (settle stack marks slab).2.2.2.block = slab.block := by
  induction stack generalizing marks slab with
  | nil => rfl
  | cons top rest ih =>
    unfold settle
    split
    case isTrue atTop =>
      cases marks.write? top false with
      | none => rfl
      | some written =>
        dsimp only
        cases decremented : slab.decrement with
        | error breach => rfl
        | ok lowered =>
          dsimp only
          rw [ih, Slab.eq_of_decrement decremented]
          rfl
    case isFalse below => rfl

omit [Provider σ] in
theorem Accounted.lower
    (accounted : pool.Accounted memory)
    {active : Slab config.geometry}
    (serving : pool.shelf.active = some active) :
    (pool.lower active).2.Accounted memory := by
  unfold Pool.lower
  cases decremented : active.decrement with
  | error breach => exact accounted
  | ok lowered =>
    refine accounted.withActive serving ?_ _
    rw [block_settle, Slab.eq_of_decrement decremented]
    rfl

section Removal

variable {β : Type} (act : Nat → β → β) (world : β)

theorem accounted_removeActive
    (accounted : pool.Accounted memory)
    {active : Slab config.geometry}
    (serving : pool.shelf.active = some active)
    (index address : Nat) :
    KeepsAccount (pool.removeActive active index address act world memory).1 := by
  unfold removeActive
  split
  case isTrue unused => exact accounted
  case isFalse used =>
    split
    case isTrue top => exact accounted.lower serving
    case isFalse below =>
      have reserved :=
        Memory.Accounted.asked accounted (pool.vacancies.asked_reserve memory)
      generalize pool.vacancies.reserve memory = answer at reserved ⊢
      rcases answer with ⟨fault | vacancies, after⟩ <;> exact reserved

theorem accounted_removeWith
    (accounted : pool.Accounted memory)
    (address : Nat) :
    KeepsAccount (pool.removeWith address act world memory).1 := by
  unfold removeWith
  rcases pool.shelf.locate address with _ | index | position
  · exact accounted
  · dsimp only
    cases serving : pool.shelf.active with
    | none => exact accounted
    | some active =>
      exact
        accounted_removeActive act world accounted serving index address
  · dsimp only
    have left := pool.shelf.accounted_removeRetiredItem position accounted
    generalize pool.shelf.removeRetiredItem position memory = answer
      at left ⊢
    rcases answer with ⟨breach | gone, shelf, after⟩ <;> exact left

end Removal

theorem accounted_remove
    (accounted : pool.Accounted memory)
    (address : Nat) :
    KeepsAccount (pool.remove address memory) :=
  accounted_removeWith _ () accounted address

/-! ## Clearing, destroying and disposing -/

omit [Provider σ] in
theorem accounted_clear
    (accounted : pool.Accounted memory) :
    (pool.clear memory).1.Accounted (pool.clear memory).2 := by
  rw [Accounted, blocks_clear]
  exact (pool.shelf.accounted_releaseRetired accounted).note _

omit [Provider σ] in
theorem accounted_destroy
    (accounted : pool.Accounted memory) :
    (pool.destroy memory).1.Accounted (pool.destroy memory).2 := by
  unfold destroy
  split
  case isTrue none => exact accounted
  case isFalse some =>
    let event :=
      Event.destroyed pool.shelf.slabCount config.geometry.item.size
    have noted := Memory.Accounted.note accounted event
    have bare := (pool.shelf.releaseAll_spec _ noted.held).1
    have released := pool.shelf.accounted_releaseAll noted
    rw [Accounted]
    dsimp only
    rw [bare]
    exact released

omit [Provider σ] in
/-- Disposal of a pool whose slabs can be counted gives back every block. -/
theorem Balanced.accounted_dispose
    (balanced : pool.Balanced memory)
    (accounted : pool.Accounted memory)
    (unwinding : Bool) :
    (pool.dispose unwinding memory).memory.Accounted [] := by
  have destroyed := accounted_destroy accounted
  rw [Accounted, balanced.slabs_destroy] at destroyed
  unfold dispose
  cases pool.isEmpty with
  | error breach => exact pool.shelf.accounted_abandon accounted
  | ok wasEmpty =>
    dsimp only
    split <;> exact destroyed

omit [Provider σ] in
/-- Disposal insists on an empty pool where it should, and on nothing else. -/
theorem answer_dispose
    {items : Nat}
    (counted : pool.itemCount = .ok items)
    (unwinding : Bool)
    (memory : Memory σ) :
    (pool.dispose unwinding memory).answer =
      if config.disposal = .mustBeEmpty ∧ items ≠ 0 ∧ ¬ unwinding then
        .error (.breach .disposedWithItems)
      else
        .ok () := by
  have insists :
      (config.disposal = .mustBeEmpty ∧ ¬ unwinding ∧ ¬ decide (items = 0)) ↔
        (config.disposal = .mustBeEmpty ∧ items ≠ 0 ∧ ¬ unwinding) := by
    rw [decide_eq_true_iff, and_comm (a := ¬ unwinding)]
  unfold dispose isEmpty
  rw [counted]
  dsimp only [Except.map]
  rw [if_congr insists rfl rfl]
  split <;> rfl

/-! ## Runs -/

/-- Every request keeps the account. -/
theorem accounted_perform
    (world : World config σ)
    (accounted : world.pool.Accounted world.memory)
    (request : Request σ) :
    (world.perform request).2.pool.Accounted
      (world.perform request).2.memory := by
  unfold World.perform
  cases request with
  | allocate => exact accounted_allocate accounted
  | reserve additional => exact accounted_reserve accounted additional
  | remove address => exact accounted_remove accounted address
  | contains address => exact accounted
  | clear => exact accounted_clear accounted
  | destroy => exact accounted_destroy accounted
  | slotsInUse => exact accounted
  | supply provider => exact ⟨accounted.held, accounted.ledger⟩

theorem Run.accounted
    {deals : List (Deal config σ)}
    {world : World config σ}
    (run : Run deals world) :
    world.pool.Accounted world.memory := by
  induction run with
  | start provider => exact accounted_idle provider
  | @next deals world run request ih => exact accounted_perform world ih request

namespace World

/-- Whatever was granted to a growth that is refused after all is not held. -/
def Refunds (world : World config σ) : Prop :=
  ∀ required fault,
    (world.pool.grow required world.memory).answer = .error (.fault fault) →
      world.pool.Accounted (world.pool.grow required world.memory).memory

/--
Disposal leaves nothing held.  It breaks off just if the pool must be empty and
is not, unless its caller broke off before.
-/
structure Disposable (world : World config σ) (unwinding : Bool) : Prop where
  returned : (world.pool.dispose unwinding world.memory).memory.Accounted []
  answered :
    ∃ items,
      world.pool.itemCount = .ok items ∧
        (world.pool.dispose unwinding world.memory).answer =
          if config.disposal = .mustBeEmpty ∧ items ≠ 0 ∧ ¬ unwinding then
            .error (.breach .disposedWithItems)
          else
            .ok ()

end World

/--
In every world of a run the held blocks are those of the slabs, one for each,
and none was given back that was not held.  Neither a refused growth nor a pool
whose first slab is refused leaves a block behind, nor does disposal.
-/
theorem accounting_of_run
    {deals : List (Deal config σ)}
    {world : World config σ}
    (run : Run deals world) :
    world.pool.Accounted world.memory ∧
      world.Refunds ∧
        (∀ (provider : σ) capacity fault,
          (withCapacity capacity (Memory.fresh provider) :
              Outcome (Pool config) σ Unit).answer = .error (.fault fault) →
            (withCapacity capacity (Memory.fresh provider) :
              Outcome (Pool config) σ Unit).memory.Accounted []) ∧
          ([SeparatingProvider σ] → ∀ unwinding,
            world.Disposable unwinding) := by
  have accounted := run.accounted
  refine ⟨accounted, ?_, ?_, ?_⟩
  · intro required fault refused
    exact accounted_of_refused_grow accounted refused
  · intro provider capacity fault refused
    exact accounted_of_refused_withCapacity provider refused
  · intro separating unwinding
    have balanced := run.balanced
    exact
      ⟨balanced.accounted_dispose accounted unwinding,
        _, balanced.sound.itemCount_eq,
        answer_dispose balanced.sound.itemCount_eq unwinding world.memory⟩

/-- A pool for items of eight bytes that must be empty when it is disposed of. -/
def Sample.strict : Config :=
  { Sample.config with disposal := .mustBeEmpty }

/-- The third slot needs a second slab, of which only the marks are refused. -/
def Sample.refusedMarks : List (Request Arena) :=
  [.allocate, .supply { Sample.arena with refused := [.marks], cursor := 16 },
    .allocate, .allocate]

theorem accounting_of_refusedMarks :
    let world : World Sample.strict Arena :=
      reached Sample.arena Sample.refusedMarks
    world.memory.ledger.head? = some (.returned ⟨Arena.origin + 16, 24, 8⟩) ∧
      world.memory.held = [⟨Arena.origin, 16, 8⟩] ∧
        world.pool.Accounted world.memory ∧
          world.Refunds ∧
            world.Disposable false := by
  have run : Run _ (reached Sample.arena _ : World Sample.strict Arena) :=
    run_history Sample.arena Sample.refusedMarks
  have accounting := accounting_of_run run
  exact
    ⟨by decide +kernel, by decide +kernel, accounting.1, accounting.2.1,
      accounting.2.2.2 false⟩

end Pool

end SlabPool
